import LoadScript.Proofs.Scan.SameFront

/-!
The words that a vocabulary can look at. A vocabulary without the word that starts a remark between two words of one
keyword never looks behind that word, so what it takes depends on the words up to there alone, and not on the gaps
between them or on anything behind.
-/

set_option autoImplicit false
set_option relaxedAutoImplicit false

namespace LoadScript

open Text Unicode

/-- Words up to the first one that starts a remark, that one included. -/
def throughRemark : List (List Char) → List (List Char)
  | [] => []
  | w :: rest => if lowercase w = remarkWord then [w] else w :: throughRemark rest

theorem throughRemark_append {back back' : List (List Char)} (h : throughRemark back = throughRemark back')
    (front : List (List Char)) : throughRemark (front ++ back) = throughRemark (front ++ back') := by
  induction front with
  | nil => exact h
  | cons w rest ih => rw [List.cons_append, List.cons_append, throughRemark, throughRemark, ih]

/-- The words of a text with only gaps between them, up to the first one that starts a remark. -/
def wordsAhead (text : List Char) : List (List Char) :=
  throughRemark ((laterWords text).map LaterWord.word)

theorem wordsAhead_of_nil {text : List Char} (h : frontWord (gap text).2 = []) : wordsAhead text = [] := by
  rw [wordsAhead, laterWords, dif_pos h]
  rfl

theorem wordsAhead_of_ne_nil {text : List Char} (h : frontWord (gap text).2 ≠ []) :
    wordsAhead text = if lowercase (frontWord (gap text).2) = remarkWord then [frontWord (gap text).2]
      else frontWord (gap text).2 :: wordsAhead (afterWord (gap text).2) := by
  rw [wordsAhead, laterWords, dif_neg h]
  rfl

/-- Texts with the same words ahead start with the same word, and have the same words behind it unless that starts
a remark. -/
theorem eq_of_wordsAhead_eq {s t : List Char} (hs : frontWord (gap s).2 ≠ []) (ht : frontWord (gap t).2 ≠ [])
    (h : wordsAhead s = wordsAhead t) : frontWord (gap s).2 = frontWord (gap t).2 ∧
      (lowercase (frontWord (gap s).2) ≠ remarkWord →
        wordsAhead (afterWord (gap s).2) = wordsAhead (afterWord (gap t).2)) := by
  rw [wordsAhead_of_ne_nil hs, wordsAhead_of_ne_nil ht] at h
  have hword : frontWord (gap s).2 = frontWord (gap t).2 := by
    have hhead := congrArg List.head? h
    split at hhead <;> split at hhead <;> exact Option.some.inj hhead
  refine ⟨hword, fun hne => ?_⟩
  rw [← hword, if_neg hne, if_neg hne] at h
  exact (List.cons.inj h).2

/-- Holds of a vocabulary that does not look behind a word that starts a remark, unless that is the first word. -/
structure Vocabulary.StopsAtRemarks (v : Vocabulary) : Prop where
  isOpening_append : ∀ seen w, seen ≠ [] → (∀ u ∈ seen ++ [w], ' ' ∉ u) → lowercase w = remarkWord →
    v.isOpening (seen ++ [w]) = false

theorem Vocabulary.stopsAtRemarks_ofTable {table : KeywordTable}
    (hrem : ∀ k ∈ table.keywords, ∀ w ∈ k.words.tail.dropLast, lowercase w ≠ remarkWord) :
    (ofTable table).StopsAtRemarks where
  isOpening_append := by
    intro seen w hseen hspace hw
    refine Bool.eq_false_iff.2 fun hopening => ?_
    rw [isOpening, List.contains_iff_mem] at hopening
    obtain ⟨k, hk, hmem⟩ := List.mem_flatMap.1 hopening
    obtain ⟨opening, hproper, hkey⟩ := List.mem_map.1 hmem
    obtain ⟨n, hn, rfl⟩ := List.mem_map.1 hproper
    have hn := List.mem_range.1 hn
    have hne : k.words.take (n + 1) ≠ [] := by
      rw [← List.length_pos_iff, List.length_take]
      omega
    have hlower := map_lowercase_of_lookupKey hne (List.append_ne_nil_of_right_ne_nil seen (List.cons_ne_nil w []))
      (fun u hu => Keyword.space_not_mem_of_mem_words (List.mem_of_mem_take hu)) hspace hkey
    have hlength := congrArg List.length hlower
    simp only [List.length_map, List.length_take, List.length_append, List.length_singleton] at hlength
    have hpos := List.length_pos_iff.2 hseen
    -- the remark is the word of the keyword behind `n` others, neither its first nor its last
    have hn' : n < k.words.length := by omega
    have hget := congrArg (fun words => words[n]?) hlower
    have hseenLength : seen.length = n := by omega
    simp only [List.getElem?_map, List.getElem?_take, Nat.lt_succ_self, if_true, List.map_append,
      List.map_singleton] at hget
    rw [List.getElem?_append_right (by rw [List.length_map]; omega), List.length_map, hseenLength, Nat.sub_self,
      List.getElem?_eq_getElem hn'] at hget
    have hmiddle : k.words[n] ∈ k.words.tail.dropLast := by
      refine List.mem_of_getElem? (i := n - 1) ?_
      rw [List.getElem?_dropLast, List.length_tail, if_pos (by omega), List.getElem?_tail,
        Nat.sub_add_cancel (by omega), List.getElem?_eq_getElem hn']
    exact hrem k hk _ hmiddle ((Option.some.inj hget).trans hw)

namespace Vocabulary

variable {v : Vocabulary}

theorem lookAhead_of_not_isOpening {seen : List (List Char)} (h : v.isOpening seen = false) (count : Nat)
    (text : List Char) : v.lookAhead count seen text = [] := by
  cases count with
  | zero => rfl
  | succ count => rw [lookAhead, if_neg (Bool.eq_false_iff.1 h)]

theorem map_word_lookAhead (hv : v.StopsAtRemarks) (count : Nat) {seen : List (List Char)} (hne : seen ≠ [])
    (hseen : ∀ u ∈ seen, ' ' ∉ u) {s t : List Char} (h : wordsAhead s = wordsAhead t) :
    (v.lookAhead count seen s).map LaterWord.word = (v.lookAhead count seen t).map LaterWord.word := by
  induction count generalizing seen s t with
  | zero => rfl
  | succ count ih =>
    by_cases hs : frontWord (gap s).2 = []
    · by_cases ht : frontWord (gap t).2 = []
      · simp [lookAhead, hs, ht]
      · rw [wordsAhead_of_nil hs, wordsAhead_of_ne_nil ht] at h
        split at h <;> exact absurd h.symm (List.cons_ne_nil _ _)
    · by_cases ht : frontWord (gap t).2 = []
      · rw [wordsAhead_of_nil ht, wordsAhead_of_ne_nil hs] at h
        split at h <;> exact absurd h (List.cons_ne_nil _ _)
      · obtain ⟨hword, hrest⟩ := eq_of_wordsAhead_eq hs ht h
        have hspace : ∀ u ∈ seen ++ [frontWord (gap t).2], ' ' ∉ u := by
          intro u hu
          rcases List.mem_append.1 hu with hu | hu
          · exact hseen u hu
          · rw [List.mem_singleton.1 hu]
            exact space_not_mem_frontWord _
        have hnext : (v.lookAhead count (seen ++ [frontWord (gap t).2]) (afterWord (gap s).2)).map
              LaterWord.word =
            (v.lookAhead count (seen ++ [frontWord (gap t).2]) (afterWord (gap t).2)).map LaterWord.word := by
          by_cases hremark : lowercase (frontWord (gap s).2) = remarkWord
          · have hclosed := hv.isOpening_append seen _ hne hspace (hword ▸ hremark)
            rw [lookAhead_of_not_isOpening hclosed, lookAhead_of_not_isOpening hclosed]
          · exact ih (List.append_ne_nil_of_left_ne_nil hne _) hspace (hrest hremark)
        by_cases hopening : v.isOpening seen = true
        · simp only [lookAhead, hopening, hword, List.isEmpty_eq_false_iff.2 ht, if_true, Bool.false_eq_true,
            if_false, List.map_cons, hnext]
        · rw [lookAhead_of_not_isOpening (Bool.eq_false_iff.2 hopening),
            lookAhead_of_not_isOpening (Bool.eq_false_iff.2 hopening)]

theorem longest?_of_map_word (first : List Char) {later later' : List LaterWord}
    (h : later.map LaterWord.word = later'.map LaterWord.word) {count : Nat} (hcount : count ≤ later.length) :
    v.longest? first later' count =
      (v.longest? first later count).map fun (taken, entry) => (later'.take taken.length, entry) := by
  induction count with
  | zero =>
    rw [longest?, longest?]
    cases v.find? [first] <;> rfl
  | succ count ih =>
    have hwords : (later'.take (count + 1)).map LaterWord.word = (later.take (count + 1)).map LaterWord.word := by
      rw [List.map_take, List.map_take, h]
    have hlength : (later.take (count + 1)).length = count + 1 := List.length_take_of_le hcount
    rw [longest?, longest?, hwords]
    cases v.find? (first :: (later.take (count + 1)).map LaterWord.word) with
    | some entry => simp only [Option.map_some, hlength]
    | none => exact ih (Nat.le_of_succ_le hcount)

end Vocabulary

theorem exists_cons_of_frontWord_ne_nil {text : List Char} (h : frontWord text ≠ []) :
    ∃ c rest, text = c :: rest ∧ isWordStart c = true := by
  cases text with
  | nil => exact absurd rfl h
  | cons c rest => exact ⟨c, rest, rfl, Decidable.byContradiction fun hc => h (if_neg hc)⟩

theorem isWhiteSpace_eq_false_of_isWordStart {c : Char} (h : isWordStart c = true) : isWhiteSpace c = false :=
  Bool.eq_false_iff.2 fun hspace =>
    Bool.false_ne_true ((isWordStart_eq_false_of_isWhiteSpace hspace).symm.trans h)

theorem gap_of_isWordStart {c : Char} (h : isWordStart c = true) (rest : List Char) :
    gap (c :: rest) = ([], c :: rest) := by
  have hslash : c ≠ '/' := by
    rintro rfl
    exact Bool.false_ne_true ((isWordStart_eq_false_of_mem_marks (by decide)).symm.trans h)
  have hpiece : gapPiece? (c :: rest) = none := by
    simp [gapPiece?, isWhiteSpace_eq_false_of_isWordStart h, hslash]
  rw [gap, hpiece]

theorem gap_append {s b : List Char} (hword : frontWord (gap s).2 ≠ []) (hsame : SameFront (gap s).2 b) :
    gap ((gap s).1.flatMap Filler.text ++ b) = ((gap s).1, b) := by
  fun_induction gap s with
  | case1 s hpiece =>
    obtain ⟨c, rest, rfl, hc⟩ := exists_cons_of_frontWord_ne_nil hword
    obtain ⟨rest', rfl, -⟩ := hsame.tail (isWhiteSpace_eq_false_of_isWordStart hc)
    exact gap_of_isWordStart hc rest'
  | case2 s f after hpiece ih =>
    have hafter := hsame.append_left ((gap after).1.flatMap Filler.text)
    rw [append_gap] at hafter
    rw [List.flatMap_cons, List.append_assoc, gap, gapPiece?_append hpiece hafter]
    simp only [ih hword hsame]

theorem laterWords_append {s after b : List Char} {taken : List LaterWord} (htaken : taken <+: laterWords s)
    (hs : taken.flatMap LaterWord.text ++ after = s) (hsame : SameFront after b) :
    laterWords (taken.flatMap LaterWord.text ++ b) = taken ++ laterWords b := by
  induction taken generalizing s with
  | nil => rfl
  | cons w rest ih =>
    obtain ⟨hword, rfl, hrest⟩ := cons_isPrefix_laterWords htaken
    -- the text behind the first of the words, with the others in front of it
    have hafter : rest.flatMap LaterWord.text ++ after = afterWord (gap s).2 := by
      rw [List.flatMap_cons, List.append_assoc] at hs
      exact List.append_cancel_left (hs.trans (LaterWord.text_append_afterWord s).symm)
    have hback := hsame.append_left (rest.flatMap LaterWord.text)
    rw [hafter] at hback
    have hfront := hback.append_left (frontWord (gap s).2)
    rw [frontWord_append_afterWord] at hfront
    have hgap := gap_append hword hfront
    have hagain := hfront.frontWord_eq.1
    have hrestAgain : afterWord (frontWord (gap s).2 ++ (rest.flatMap LaterWord.text ++ b)) =
        rest.flatMap LaterWord.text ++ b := by
      have hsplit := frontWord_append_afterWord (frontWord (gap s).2 ++ (rest.flatMap LaterWord.text ++ b))
      rw [← hagain] at hsplit
      exact List.append_cancel_left hsplit
    rw [List.flatMap_cons, LaterWord.text, List.append_assoc, List.append_assoc, laterWords, hgap, ← hagain,
      dif_neg hword, hrestAgain, ih hrest hafter, List.cons_append]

namespace Vocabulary

variable {v : Vocabulary}

theorem wordMatch_of_map_word {x y : List Char} (hfirst : frontWord x = frontWord y)
    (hmap : (v.lookAhead (v.maxWords - 1) [frontWord x] (afterWord x)).map LaterWord.word =
      (v.lookAhead (v.maxWords - 1) [frontWord x] (afterWord y)).map LaterWord.word)
    (hparenthesis : (afterWord x).head? = some '(' ↔ (afterWord y).head? = some '(')
    (hlater : (v.wordMatch x).later <+: laterWords (afterWord y)) : v.wordMatch y = v.wordMatch x := by
  have hlength := congrArg List.length hmap
  rw [List.length_map, List.length_map] at hlength
  have hlongest := longest?_of_map_word (v := v) (frontWord x) hmap (Nat.le_refl _)
  have hprefix := lookAhead_isPrefix v (v.maxWords - 1) [frontWord x] (afterWord y)
  simp only [wordMatch] at hlater ⊢
  rw [← hfirst, ← hlength, hlongest]
  cases hfound : v.longest? (frontWord x) (v.lookAhead (v.maxWords - 1) [frontWord x] (afterWord x))
      (v.lookAhead (v.maxWords - 1) [frontWord x] (afterWord x)).length with
  | none => rfl
  | some found =>
    obtain ⟨taken, entry⟩ := found
    have hle : taken.length ≤ (v.lookAhead (v.maxWords - 1) [frontWord x] (afterWord y)).length := by
      rw [← hlength]
      exact (longest?_eq_some hfound).1.length_le
    rw [hfound] at hlater
    simp only [Option.map_some] at hlater ⊢
    by_cases hempty : taken.isEmpty = true
    · obtain rfl := List.isEmpty_iff.1 hempty
      refine ite_congr (propext (and_congr Iff.rfl (and_congr Iff.rfl hparenthesis.symm))) (fun _ => ?_) fun _ => ?_
      · rfl
      · rfl
    · -- the words of the match are the words that are looked at first in the other text
      rw [if_neg fun h => hempty h.1] at hlater
      have hsame := List.prefix_of_prefix_length_le hlater hprefix hle
      rw [← List.prefix_iff_eq_take.1 hsame, if_neg fun h => hempty h.1, if_neg fun h => hempty h.1]

theorem behind_wordMatch {x after b : List Char} (hx : (v.wordMatch x).text ++ after = x)
    (hsame : SameFront after b) :
    frontWord x = frontWord ((v.wordMatch x).text ++ b) ∧
      SameFront (afterWord x) (afterWord ((v.wordMatch x).text ++ b)) ∧
      laterWords (afterWord ((v.wordMatch x).text ++ b)) = (v.wordMatch x).later ++ laterWords b := by
  have hxy := hsame.append_left (v.wordMatch x).text
  rw [hx] at hxy
  obtain ⟨hfirst, hback⟩ := hxy.frontWord_eq
  have hbehind : ∀ {y c : List Char}, frontWord x = frontWord y → (v.wordMatch x).text ++ c = y →
      (v.wordMatch x).later.flatMap LaterWord.text ++ c = afterWord y := by
    intro y c hword hy
    have hsplit := hy.trans (frontWord_append_afterWord y).symm
    rw [WordMatch.text, first_wordMatch, List.append_assoc, hword] at hsplit
    exact List.append_cancel_left hsplit
  refine ⟨hfirst, hback, ?_⟩
  rw [← hbehind hfirst rfl]
  exact laterWords_append (v.later_wordMatch_isPrefix x) (hbehind rfl hx) hsame

theorem wordsAhead_afterWord {x after b : List Char} (hx : (v.wordMatch x).text ++ after = x)
    (hsame : SameFront after b) (hwords : wordsAhead after = wordsAhead b) :
    wordsAhead (afterWord x) = wordsAhead (afterWord ((v.wordMatch x).text ++ b)) := by
  obtain ⟨-, -, hlater⟩ := behind_wordMatch hx (.refl after)
  obtain ⟨-, -, hlater'⟩ := behind_wordMatch hx hsame
  rw [hx] at hlater
  rw [wordsAhead, wordsAhead, hlater, hlater', List.map_append, List.map_append]
  exact throughRemark_append hwords _

/-- The words at the front of a text are matched again in front of what agrees with the text behind them and has the
same words ahead. -/
theorem wordMatch_eq (hv : v.StopsAtRemarks) {x after b : List Char} (hx : (v.wordMatch x).text ++ after = x)
    (hsame : SameFront after b) (hwords : wordsAhead after = wordsAhead b) :
    v.wordMatch ((v.wordMatch x).text ++ b) = v.wordMatch x := by
  obtain ⟨hfirst, hback, hlater⟩ := behind_wordMatch hx hsame
  have hspace : ∀ u ∈ [frontWord x], ' ' ∉ u := by
    intro u hu
    rw [List.mem_singleton.1 hu]
    exact space_not_mem_frontWord x
  refine wordMatch_of_map_word hfirst
    (map_word_lookAhead hv _ (List.cons_ne_nil _ _) hspace (wordsAhead_afterWord hx hsame hwords))
    (hback.head?_eq_some_iff (classes_of_mem_marks (by decide)).2) ?_
  rw [hlater]
  exact List.prefix_append _ _

end Vocabulary

end LoadScript
