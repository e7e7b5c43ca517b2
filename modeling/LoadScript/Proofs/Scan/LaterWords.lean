import LoadScript.Scan.WordMatch

/-!
The words that follow a word, each with the gap in front of it, without any bound on their number. What a
vocabulary looks at is a front of them, and so is what it takes into one token.
-/

set_option autoImplicit false
set_option relaxedAutoImplicit false

namespace LoadScript

theorem append_gap (text : List Char) : (gap text).1.flatMap Filler.text ++ (gap text).2 = text := by
  fun_induction gap text with
  | case1 text _ => simp
  | case2 text filler after h ih =>
    simp only [List.flatMap_cons, List.append_assoc, ih]
    exact append_of_gapPiece? h

theorem exists_of_mem_gap {text : List Char} {f : Filler} (hf : f ∈ (gap text).1) :
    ∃ t after, gapPiece? t = some (f, after) := by
  fun_induction gap text with
  | case1 => exact absurd hf List.not_mem_nil
  | case2 text filler after h ih =>
    rcases List.mem_cons.1 hf with rfl | hf
    · exact ⟨text, after, h⟩
    · exact ih hf

theorem text_ne_nil_of_mem_gap {text : List Char} {f : Filler} (hf : f ∈ (gap text).1) :
    f.text ≠ [] := by
  obtain ⟨t, after, h⟩ := exists_of_mem_gap hf
  exact gapPiece?_text_ne_nil h

private theorem length_afterWord_gap_lt {text : List Char} (h : frontWord (gap text).2 ≠ []) :
    (afterWord (gap text).2).length < text.length := by
  have hgap := congrArg List.length (append_gap text)
  have hword := length_afterWord_lt h
  simp only [List.length_append] at hgap
  omega

/-- The words behind a word, up to the first gap that no word follows. -/
def laterWords (text : List Char) : List LaterWord :=
  if _h : frontWord (gap text).2 = [] then []
  else ⟨(gap text).1, frontWord (gap text).2⟩ :: laterWords (afterWord (gap text).2)
termination_by text.length
decreasing_by exact length_afterWord_gap_lt _h

/-- A front of the later words starts with the next word and goes on with a front of those behind it. -/
theorem cons_isPrefix_laterWords {w : LaterWord} {rest : List LaterWord} {text : List Char}
    (h : w :: rest <+: laterWords text) : frontWord (gap text).2 ≠ [] ∧
      w = ⟨(gap text).1, frontWord (gap text).2⟩ ∧ rest <+: laterWords (afterWord (gap text).2) := by
  rw [laterWords] at h
  split at h
  · exact absurd (List.prefix_nil.1 h) (List.cons_ne_nil w rest)
  · next hword => exact ⟨hword, List.cons_prefix_cons.1 h⟩

theorem LaterWord.text_append_afterWord (text : List Char) :
    (LaterWord.mk (gap text).1 (frontWord (gap text).2)).text ++ afterWord (gap text).2 = text := by
  rw [LaterWord.text, List.append_assoc, frontWord_append_afterWord, append_gap]

theorem exists_of_mem_laterWords {text : List Char} {w : LaterWord} (hw : w ∈ laterWords text) :
    ∃ t, frontWord (gap t).2 ≠ [] ∧ w = ⟨(gap t).1, frontWord (gap t).2⟩ := by
  fun_induction laterWords text with
  | case1 => exact absurd hw List.not_mem_nil
  | case2 text h ih =>
    rcases List.mem_cons.1 hw with rfl | hw
    · exact ⟨text, h, rfl⟩
    · exact ih hw

structure LaterWord.Proper (w : LaterWord) : Prop where
  word_ne_nil : w.word ≠ []
  filler_ne_nil : ∀ f ∈ w.filler, f.text ≠ []

theorem proper_of_mem_laterWords {text : List Char} {w : LaterWord} (hw : w ∈ laterWords text) :
    w.Proper := by
  obtain ⟨t, hword, rfl⟩ := exists_of_mem_laterWords hw
  exact ⟨hword, fun f hf => text_ne_nil_of_mem_gap hf⟩

theorem flatMap_text_laterWords_isPrefix (text : List Char) :
    (laterWords text).flatMap LaterWord.text <+: text := by
  fun_induction laterWords text with
  | case1 text _ => exact List.nil_prefix
  | case2 text h ih =>
    have hfront := (List.prefix_append_right_inj (frontWord (gap text).2)).2 ih
    rw [frontWord_append_afterWord] at hfront
    have hgap := (List.prefix_append_right_inj ((gap text).1.flatMap Filler.text)).2 hfront
    rw [append_gap] at hgap
    simpa only [List.flatMap_cons, LaterWord.text, List.append_assoc] using hgap

namespace Vocabulary

theorem lookAhead_isPrefix (v : Vocabulary) (count : Nat) (seen : List (List Char))
    (text : List Char) : v.lookAhead count seen text <+: laterWords text := by
  induction count generalizing seen text with
  | zero => exact List.nil_prefix
  | succ count ih =>
    rw [lookAhead, laterWords]
    by_cases hopening : v.isOpening seen = true
    · by_cases hword : frontWord (gap text).2 = []
      · simp [hopening, hword]
      · have hempty : (frontWord (gap text).2).isEmpty = false := by simpa using hword
        simp only [hopening, hempty, hword, if_true, dite_false, Bool.false_eq_true, if_false,
          List.cons_prefix_cons, true_and]
        exact ih _ _
    · rw [if_neg hopening]
      exact List.nil_prefix

theorem longest?_eq_some {v : Vocabulary} {first : List Char} {later taken : List LaterWord}
    {count : Nat} {entry : IndexEntry} (h : v.longest? first later count = some (taken, entry)) :
    taken <+: later ∧ v.find? (first :: taken.map LaterWord.word) = some entry := by
  induction count with
  | zero =>
    obtain ⟨found, hfind, hsame⟩ := Option.map_eq_some_iff.1 h
    obtain ⟨rfl, rfl⟩ := Prod.mk.inj hsame
    exact ⟨ List.nil_prefix, hfind⟩
  | succ count ih =>
    rw [longest?] at h
    split at h
    · next found hfind =>
      obtain ⟨rfl, rfl⟩ := Prod.mk.inj (Option.some.inj h)
      exact ⟨List.take_prefix _ _, hfind⟩
    · exact ih h

/-- Either the front word stands alone as a name, or the matched words spell an entry. -/
theorem wordMatch_cases (v : Vocabulary) (text : List Char) :
    v.wordMatch text = ⟨.identifier, none, frontWord text, []⟩ ∨
      ∃ taken entry, taken <+: laterWords (afterWord text) ∧
        v.find? (frontWord text :: taken.map LaterWord.word) = some entry ∧
        v.wordMatch text =
          ⟨entry.keyword.tokenKind, some entry.canonical, frontWord text, taken⟩ := by
  unfold wordMatch
  simp only
  split
  · exact Or.inl rfl
  · next taken entry hlongest =>
    obtain ⟨htaken, hfind⟩ := longest?_eq_some hlongest
    split
    · exact Or.inl rfl
    · exact Or.inr ⟨taken, entry, htaken.trans (lookAhead_isPrefix v _ _ _), hfind, rfl⟩

@[simp]
theorem first_wordMatch (v : Vocabulary) (text : List Char) :
    (v.wordMatch text).first = frontWord text := by
  rcases v.wordMatch_cases text with h | ⟨taken, entry, -, -, h⟩ <;> rw [h]

theorem later_wordMatch_isPrefix (v : Vocabulary) (text : List Char) :
    (v.wordMatch text).later <+: laterWords (afterWord text) := by
  rcases v.wordMatch_cases text with h | ⟨taken, entry, htaken, -, h⟩
  · rw [h]
    exact List.nil_prefix
  · rw [h]
    exact htaken

theorem text_wordMatch_isPrefix (v : Vocabulary) (text : List Char) :
    (v.wordMatch text).text <+: text := by
  have hlater : (v.wordMatch text).later.flatMap LaterWord.text <+: afterWord text := by
    have h := flatMap_text_laterWords_isPrefix (afterWord text)
    obtain ⟨rest, hrest⟩ := v.later_wordMatch_isPrefix text
    rw [← hrest, List.flatMap_append] at h
    exact (List.prefix_append _ _).trans h
  have h := (List.prefix_append_right_inj (frontWord text)).2 hlater
  rw [frontWord_append_afterWord] at h
  rwa [WordMatch.text, first_wordMatch]

end Vocabulary

end LoadScript
