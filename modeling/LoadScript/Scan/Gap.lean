import LoadScript.Text.Through
import LoadScript.Token
import LoadScript.Unicode.WhiteSpace

set_option autoImplicit false
set_option relaxedAutoImplicit false

namespace LoadScript

open Text Unicode

def gapKinds : List TriviaKind :=
  [.whitespace, .lineComment, .blockComment]

structure Filler where
  kind : TriviaKind
  text : List Char

/-- The piece of a gap at the front of a text, with the text after it. -/
def gapPiece? : List Char → Option (Filler × List Char)
  | [] => none
  | c :: rest =>
    if isWhiteSpace c then
      some (⟨.whitespace, c :: rest.takeWhile isWhiteSpace⟩, rest.dropWhile isWhiteSpace)
    else if c = '/' ∧ rest.head? = some '/' then
      some (⟨.lineComment, c :: rest.takeWhile (· ≠ '\n')⟩, rest.dropWhile (· ≠ '\n'))
    else if c = '/' ∧ rest.head? = some '*' then
      (throughStarSlash? rest.tail).map fun (body, after) => (⟨.blockComment, '/' :: '*' :: body⟩, after)
    else none

theorem gapPiece?_eq_some {c : Char} {rest after : List Char} {filler : Filler}
    (h : gapPiece? (c :: rest) = some (filler, after)) :
    (isWhiteSpace c = true ∧ filler = ⟨.whitespace, c :: rest.takeWhile isWhiteSpace⟩ ∧
        after = rest.dropWhile isWhiteSpace) ∨
      (isWhiteSpace c ≠ true ∧ (c = '/' ∧ rest.head? = some '/') ∧
        filler = ⟨.lineComment, c :: rest.takeWhile (· ≠ '\n')⟩ ∧ after = rest.dropWhile (· ≠ '\n')) ∨
      (isWhiteSpace c ≠ true ∧ ¬(c = '/' ∧ rest.head? = some '/') ∧ (c = '/' ∧ rest.head? = some '*') ∧
        ∃ body, throughStarSlash? rest.tail = some (body, after) ∧
          filler = ⟨.blockComment, '/' :: '*' :: body⟩) := by
  rw [gapPiece?] at h
  split at h
  · next hspace =>
    obtain ⟨rfl, rfl⟩ := Prod.mk.inj (Option.some.inj h)
    exact Or.inl ⟨hspace, rfl, rfl⟩
  · next hspace =>
    split at h
    · next hline =>
      obtain ⟨rfl, rfl⟩ := Prod.mk.inj (Option.some.inj h)
      exact Or.inr (Or.inl ⟨hspace, hline, rfl, rfl⟩)
    · next hline =>
      split at h
      · next hblock =>
        obtain ⟨⟨body, back⟩, hbody, hsame⟩ := Option.map_eq_some_iff.1 h
        obtain ⟨rfl, rfl⟩ := Prod.mk.inj hsame
        exact Or.inr (Or.inr ⟨hspace, hline, hblock, body, hbody, rfl⟩)
      · exact absurd h.symm (Option.some_ne_none _)

theorem gapPiece?_eq_none {c : Char} {rest : List Char} (h : gapPiece? (c :: rest) = none) :
    isWhiteSpace c = false ∧ ¬(c = '/' ∧ rest.head? = some '/') ∧
      (c = '/' ∧ rest.head? = some '*' → throughStarSlash? rest.tail = none) := by
  rw [gapPiece?] at h
  split at h
  · exact absurd h (Option.some_ne_none _)
  · next hspace =>
    split at h
    · exact absurd h (Option.some_ne_none _)
    · next hline =>
      refine ⟨Bool.eq_false_iff.2 hspace, hline, fun hblock => ?_⟩
      rw [if_pos hblock] at h
      exact Option.map_eq_none_iff.1 h

theorem append_of_gapPiece? {text after : List Char} {filler : Filler}
    (h : gapPiece? text = some (filler, after)) : filler.text ++ after = text := by
  cases text with
  | nil => exact absurd h.symm (Option.some_ne_none _)
  | cons c rest =>
    rcases gapPiece?_eq_some h with ⟨-, rfl, rfl⟩ | ⟨-, -, rfl, rfl⟩ |
      ⟨-, -, ⟨rfl, hstar⟩, body, hbody, rfl⟩
    · simp
    · simp
    · obtain ⟨more, rfl⟩ := List.head?_eq_some_iff.1 hstar
      simp [append_of_throughStarSlash? hbody]

theorem gapPiece?_text_ne_nil {text after : List Char} {filler : Filler}
    (h : gapPiece? text = some (filler, after)) : filler.text ≠ [] := by
  cases text with
  | nil => exact absurd h.symm (Option.some_ne_none _)
  | cons c rest =>
    rcases gapPiece?_eq_some h with ⟨-, rfl, -⟩ | ⟨-, -, rfl, -⟩ | ⟨-, -, -, body, -, rfl⟩ <;>
      exact List.cons_ne_nil _ _

theorem length_lt_of_gapPiece? {text after : List Char} {filler : Filler}
    (h : gapPiece? text = some (filler, after)) : after.length < text.length := by
  have hlength := congrArg List.length (append_of_gapPiece? h)
  have hpos := List.length_pos_iff.2 (gapPiece?_text_ne_nil h)
  simp only [List.length_append] at hlength
  omega

def gap (text : List Char) : List Filler × List Char :=
  match _h : gapPiece? text with
  | none => ([], text)
  | some (filler, after) => (filler :: (gap after).1, (gap after).2)
termination_by text.length
decreasing_by
  all_goals exact length_lt_of_gapPiece? _h

end LoadScript
