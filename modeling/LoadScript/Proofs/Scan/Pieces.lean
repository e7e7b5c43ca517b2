import LoadScript.Proofs.Scan.LaterWords
import LoadScript.Scan.Piece

set_option autoImplicit false
set_option relaxedAutoImplicit false

namespace LoadScript

open Text Unicode

private theorem append_isPrefix {front next text : List Char} (hfront : front <+: text)
    (hnext : next <+: text.drop front.length) : front ++ next <+: text := by
  obtain ⟨back, rfl⟩ := hfront
  rw [List.drop_left] at hnext
  exact (List.prefix_append_right_inj front).2 hnext

theorem frontSign_isPrefix (text : List Char) : frontSign text <+: text := by
  cases text with
  | nil => exact List.nil_prefix
  | cons c rest =>
    unfold frontSign
    split <;> simp_all

theorem frontFraction_isPrefix (text : List Char) : frontFraction text <+: text := by
  cases text with
  | nil => exact List.nil_prefix
  | cons c rest =>
    rw [frontFraction]
    split
    · exact List.cons_prefix_cons.2 ⟨rfl, List.takeWhile_prefix _⟩
    · exact List.nil_prefix

private theorem frontExponent_isPrefix (text : List Char) : frontExponent text <+: text := by
  cases text with
  | nil => exact List.nil_prefix
  | cons c rest =>
    simp only [frontExponent]
    split
    · exact List.cons_prefix_cons.2
        ⟨rfl, append_isPrefix (frontSign_isPrefix rest) (List.takeWhile_prefix _)⟩
    · exact List.nil_prefix

theorem frontNumber_isPrefix (text : List Char) : (frontNumber text).2 <+: text := by
  have hdigits : frontDigits text <+: text := List.takeWhile_prefix _
  simp only [frontNumber]
  split
  · exact hdigits
  · refine append_isPrefix (append_isPrefix hdigits (frontFraction_isPrefix _)) ?_
    rw [List.length_append]
    exact frontExponent_isPrefix _

private theorem text_append_cut (piece : List Char → Piece) {text front : List Char}
    (hpiece : (piece front).text = front) (hfront : front <+: text) :
    (cut piece text front).1.text ++ (cut piece text front).2 = text := by
  obtain ⟨back, rfl⟩ := hfront
  simp [cut, hpiece]

private theorem text_append_closed {piece : List Char → Piece} {form : LiteralForm}
    {opening body text : List Char} {found : Option (List Char × List Char)}
    (hpiece : ∀ t, (piece t).text = t) (htext : opening ++ body = text)
    (hfound : ∀ inside after, found = some (inside, after) → inside ++ after = body) :
    (closed piece form opening body found).1.text ++ (closed piece form opening body found).2 =
      text := by
  cases found with
  | none => simpa [closed, Piece.text] using htext
  | some split => simp [closed, hpiece, hfound split.1 split.2 rfl, htext]

/-- What a lead says about a first character and the character after it. -/
def Lead.Announced (c : Char) (next : Option Char) : Lead → Prop
  | .whitespace => isWhiteSpace c = true
  | .lineComment => c = '/' ∧ next = some '/'
  | .blockComment => c = '/' ∧ next = some '*'
  | .literal delimiter => delimiter.opening <+: c :: next.toList
  | .number => isDigit c = true
  | .comparison => isComparisonSign c = true
  | .arithmetic => isArithmeticSign c = true
  | .mark kind => (c, kind) ∈
      [(';', .semicolon), (',', .comma), (':', .colon), ('(', .leftParen), (')', .rightParen)]
  | .word => isWordStart c = true
  | .unknown => isWordStart c = false

private theorem Lead.announced_ite {c : Char} {next : Option Char} {p : Prop} [Decidable p]
    {a b : Lead} (ha : p → a.Announced c next) (hb : ¬p → b.Announced c next) :
    (if p then a else b).Announced c next := by
  by_cases h : p
  · rw [if_pos h]
    exact ha h
  · rw [if_neg h]
    exact hb h

theorem Lead.announced_of (c : Char) (next : Option Char) : (Lead.of c next).Announced c next := by
  unfold Lead.of
  refine Lead.announced_ite (fun h => h) fun _ => ?_
  refine Lead.announced_ite (fun h => h) fun _ => ?_
  refine Lead.announced_ite (fun h => h) fun _ => ?_
  refine Lead.announced_ite (fun h => by simp [Lead.Announced, Delimiter.opening, h]) fun _ => ?_
  refine Lead.announced_ite (fun h => by simp [Lead.Announced, Delimiter.opening, h]) fun _ => ?_
  refine Lead.announced_ite (fun h => by simp [Lead.Announced, Delimiter.opening, h]) fun _ => ?_
  refine Lead.announced_ite (fun h => by simp [Lead.Announced, Delimiter.opening, h]) fun _ => ?_
  refine Lead.announced_ite (fun h => h) fun _ => ?_
  refine Lead.announced_ite (fun h => h) fun _ => ?_
  refine Lead.announced_ite (fun h => h) fun _ => ?_
  refine Lead.announced_ite (fun h => by simp [Lead.Announced, h]) fun _ => ?_
  refine Lead.announced_ite (fun h => by simp [Lead.Announced, h]) fun _ => ?_
  refine Lead.announced_ite (fun h => by simp [Lead.Announced, h]) fun _ => ?_
  refine Lead.announced_ite (fun h => by simp [Lead.Announced, h]) fun _ => ?_
  refine Lead.announced_ite (fun h => by simp [Lead.Announced, h]) fun _ => ?_
  exact Lead.announced_ite (fun h => h) fun h => Bool.eq_false_iff.2 h

/-- Where no piece of a gap stands, a block comment that is announced stays open. -/
theorem Lead.of_gapPiece?_eq_none {c : Char} {rest : List Char} (h : gapPiece? (c :: rest) = none) :
    Lead.of c rest.head? ≠ .whitespace ∧ Lead.of c rest.head? ≠ .lineComment ∧
      (Lead.of c rest.head? = .blockComment → throughStarSlash? rest.tail = none) := by
  obtain ⟨hspace, hline, hblock⟩ := gapPiece?_eq_none h
  have hannounced := Lead.announced_of c rest.head?
  refine ⟨?_, ?_, ?_⟩
  · intro hlead
    rw [hlead] at hannounced
    exact Bool.false_ne_true (hspace.symm.trans hannounced)
  · intro hlead
    rw [hlead] at hannounced
    exact hline hannounced
  · intro hlead
    rw [hlead] at hannounced
    exact hblock hannounced

private theorem cons_head?_isPrefix (c : Char) (rest : List Char) :
    c :: rest.head?.toList <+: c :: rest := by
  cases rest <;> simp

theorem text_append_frontPiece (v : Vocabulary) (c : Char) (rest : List Char) :
    (frontPiece v c rest).1.text ++ (frontPiece v c rest).2 = c :: rest := by
  have hone : [c] <+: c :: rest := List.cons_prefix_cons.2 ⟨rfl, List.nil_prefix⟩
  unfold frontPiece
  split
  · exact text_append_cut _ rfl (List.cons_prefix_cons.2 ⟨rfl, List.takeWhile_prefix _⟩)
  · exact text_append_cut _ rfl (List.cons_prefix_cons.2 ⟨rfl, List.takeWhile_prefix _⟩)
  · next hlead =>
    refine text_append_closed (fun _ => rfl) ?_ fun _ _ => append_of_throughStarSlash?
    obtain ⟨hc, hnext⟩ : c = '/' ∧ rest.head? = some '*' := by
      simpa only [hlead, Lead.Announced] using Lead.announced_of c rest.head?
    obtain ⟨back, rfl⟩ := List.head?_eq_some_iff.1 hnext
    rw [hc]
    rfl
  · next delimiter hlead =>
    refine text_append_closed (fun _ => rfl) ?_ fun _ _ => append_of_throughChar?
    have hopening : delimiter.opening <+: c :: rest.head?.toList := by
      simpa only [hlead, Lead.Announced] using Lead.announced_of c rest.head?
    obtain ⟨body, hbody⟩ := hopening.trans (cons_head?_isPrefix c rest)
    rw [← hbody, List.drop_left]
  · exact text_append_cut _ rfl (frontNumber_isPrefix _)
  · refine text_append_cut _ rfl ?_
    split
    · exact List.take_prefix _ _
    · exact hone
  · exact text_append_cut _ rfl hone
  · exact text_append_cut _ rfl hone
  · split
    · exact text_append_closed (fun _ => rfl) rfl fun _ _ => append_of_throughChar?
    · exact text_append_cut (fun _ => .words (v.wordMatch (c :: rest))) rfl
        (v.text_wordMatch_isPrefix (c :: rest))
  · exact text_append_cut _ rfl hone

theorem text_frontPiece_ne_nil (v : Vocabulary) (c : Char) (rest : List Char) :
    (frontPiece v c rest).1.text ≠ [] := by
  intro hempty
  have htext := text_append_frontPiece v c rest
  have hlt := length_frontPiece_lt v c rest
  rw [hempty, List.nil_append] at htext
  rw [htext] at hlt
  exact Nat.lt_irrefl _ hlt

theorem forall_mem_pieces {v : Vocabulary} {P : Piece → Prop}
    (h : ∀ c rest, P (frontPiece v c rest).1) (text : List Char) : ∀ p ∈ pieces v text, P p := by
  fun_induction pieces v text with
  | case1 => simp
  | case2 c rest ih => exact List.forall_mem_cons.2 ⟨h c rest, ih⟩

theorem flatMap_text_pieces (v : Vocabulary) (text : List Char) :
    (pieces v text).flatMap Piece.text = text := by
  fun_induction pieces v text with
  | case1 => rfl
  | case2 c rest ih => rw [List.flatMap_cons, ih, text_append_frontPiece]

theorem text_ne_nil_of_mem_pieces {v : Vocabulary} {text : List Char} {p : Piece}
    (hp : p ∈ pieces v text) : p.text ≠ [] :=
  forall_mem_pieces (P := fun q => q.text ≠ []) (text_frontPiece_ne_nil v) text p hp

structure WordMatch.Proper (m : WordMatch) : Prop where
  first_ne_nil : m.first ≠ []
  proper_of_mem_later : ∀ w ∈ m.later, w.Proper

theorem Vocabulary.proper_wordMatch (v : Vocabulary) {text : List Char}
    (h : frontWord text ≠ []) : (v.wordMatch text).Proper where
  first_ne_nil := by rwa [first_wordMatch]
  proper_of_mem_later := by
    intro w hw
    obtain ⟨rest, hrest⟩ := v.later_wordMatch_isPrefix text
    have hmem : w ∈ laterWords (afterWord text) := by
      rw [← hrest]
      exact List.mem_append_left rest hw
    exact proper_of_mem_laterWords hmem

theorem fst_closed_ne {piece : List Char → Piece} {form : LiteralForm} {opening body : List Char}
    {found : Option (List Char × List Char)} {p : Piece} (hopen : ∀ t, .unterminated form t ≠ p)
    (hpiece : ∀ t, piece t ≠ p) : (closed piece form opening body found).1 ≠ p := by
  cases found with
  | none => exact hopen _
  | some split => exact hpiece _

theorem frontPiece_eq_words {v : Vocabulary} {c : Char} {rest : List Char} {m : WordMatch}
    (h : (frontPiece v c rest).1 = .words m) :
    isWordStart c = true ∧ startsRemark (c :: rest) = false ∧ m = v.wordMatch (c :: rest) := by
  unfold frontPiece at h
  split at h
  · exact Piece.noConfusion h
  · exact Piece.noConfusion h
  · exact absurd h (fst_closed_ne (fun _ => Piece.noConfusion) fun _ => Piece.noConfusion)
  · exact absurd h (fst_closed_ne (fun _ => Piece.noConfusion) fun _ => Piece.noConfusion)
  · exact Piece.noConfusion h
  · exact Piece.noConfusion h
  · exact Piece.noConfusion h
  · exact Piece.noConfusion h
  · next hlead =>
    refine ⟨Lead.isWordStart_of_of_eq_word hlead, ?_⟩
    split at h
    · exact absurd h (fst_closed_ne (fun _ => Piece.noConfusion) fun _ => Piece.noConfusion)
    · next hremark => exact ⟨Bool.eq_false_iff.2 hremark, (Piece.words.inj h).symm⟩
  · exact Piece.noConfusion h

/-- The words of every piece are read at some place where a word stands. -/
theorem exists_of_words_mem_pieces {v : Vocabulary} {text : List Char} {m : WordMatch}
    (hm : .words m ∈ pieces v text) : ∃ t, frontWord t ≠ [] ∧ m = v.wordMatch t := by
  have hfront : ∀ c rest n, (frontPiece v c rest).1 = .words n →
      ∃ t, frontWord t ≠ [] ∧ n = v.wordMatch t := by
    intro c rest n hn
    obtain ⟨hstart, -, hmatch⟩ := frontPiece_eq_words hn
    exact ⟨c :: rest, by simp [frontWord, hstart], hmatch⟩
  exact forall_mem_pieces
    (P := fun p => ∀ n, p = .words n → ∃ t, frontWord t ≠ [] ∧ n = v.wordMatch t)
    hfront text _ hm m rfl

theorem proper_of_words_mem_pieces {v : Vocabulary} {text : List Char} {m : WordMatch}
    (hm : .words m ∈ pieces v text) : m.Proper := by
  obtain ⟨t, hword, rfl⟩ := exists_of_words_mem_pieces hm
  exact v.proper_wordMatch hword

end LoadScript
