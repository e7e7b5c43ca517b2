import LoadScript.Proofs.Scan.PlainPieces
import LoadScript.Proofs.Scan.Remarks

/-!
Texts that end in a semicolon of their own. Every rule of the scanner searches forward, and the words of a keyword
are looked for over any number of comments; but where a text is read up to a semicolon at its end, all searches
come to an end in front of that semicolon, and so what follows the text does not matter to its pieces.
-/

set_option autoImplicit false
set_option relaxedAutoImplicit false

namespace LoadScript

open Text Unicode

namespace Text

variable {close : Char} {text inside after : List Char}

theorem takeWhile_append_of_dropWhile_ne_nil {p : Char → Bool} (h : text.dropWhile p ≠ [])
    (more : List Char) :
    (text ++ more).takeWhile p = text.takeWhile p ∧
      (text ++ more).dropWhile p = text.dropWhile p ++ more := by
  have hdrop : (text ++ more).dropWhile p = text.dropWhile p ++ more := by
    rw [List.dropWhile_append, if_neg (by simpa using h)]
  refine ⟨?_, hdrop⟩
  have hsplit : (text ++ more).takeWhile p ++ (text ++ more).dropWhile p = text ++ more :=
    List.takeWhile_append_dropWhile
  rw [hdrop, ← List.append_assoc] at hsplit
  have hfront := List.append_cancel_right hsplit
  exact List.append_cancel_right (hfront.trans List.takeWhile_append_dropWhile.symm)

theorem throughChar?_append (h : throughChar? close text = some (inside, after)) (more : List Char) :
    throughChar? close (text ++ more) = some (inside, after ++ more) := by
  induction text generalizing inside with
  | nil => exact absurd h.symm (Option.some_ne_none _)
  | cons c rest ih =>
    rw [List.cons_append]
    unfold throughChar? at h ⊢
    split
    · next hclose =>
      rw [if_pos hclose] at h
      obtain ⟨rfl, rfl⟩ := Prod.mk.inj (Option.some.inj h)
      rfl
    · next hclose =>
      rw [if_neg hclose] at h
      obtain ⟨⟨body, back⟩, hrest, hsame⟩ := Option.map_eq_some_iff.1 h
      obtain ⟨rfl, rfl⟩ := Prod.mk.inj hsame
      rw [ih hrest]
      rfl

theorem throughStarSlash?_append (h : throughStarSlash? text = some (inside, after))
    (more : List Char) : throughStarSlash? (text ++ more) = some (inside, after ++ more) := by
  induction text generalizing inside with
  | nil => exact absurd h.symm (Option.some_ne_none _)
  | cons c rest ih =>
    cases rest with
    | nil => simp [throughStarSlash?] at h
    | cons d back =>
      have hhead : (d :: back ++ more).head? = (d :: back).head? := rfl
      rw [List.cons_append, throughStarSlash?, hhead]
      rw [throughStarSlash?] at h
      split
      · next hmark =>
        rw [if_pos hmark] at h
        obtain ⟨rfl, rfl⟩ := Prod.mk.inj (Option.some.inj h)
        rfl
      · next hmark =>
        rw [if_neg hmark] at h
        obtain ⟨⟨body, left⟩, hrest, hsame⟩ := Option.map_eq_some_iff.1 h
        obtain ⟨rfl, rfl⟩ := Prod.mk.inj hsame
        rw [ih hrest]
        rfl

end Text

def Piece.semicolon : Piece :=
  .token .semicolon [';']

theorem eq_of_frontPiece_eq_semicolon {v : Vocabulary} {c : Char} {rest written : List Char}
    (h : (frontPiece v c rest).1 = .token .semicolon written) : written = [';'] := by
  unfold frontPiece at h
  split at h
  · exact Piece.noConfusion h
  · exact Piece.noConfusion h
  · exact absurd h (fst_closed_ne (fun _ => Piece.noConfusion) fun _ => Piece.noConfusion)
  · next delimiter _ =>
    refine absurd h (fst_closed_ne (fun _ => Piece.noConfusion) fun t ht => ?_)
    have hkind := (Piece.token.inj ht).1
    cases delimiter <;> exact TokenKind.noConfusion hkind
  · exact TokenKind.noConfusion (Piece.token.inj h).1
  · exact TokenKind.noConfusion (Piece.token.inj h).1
  · exact TokenKind.noConfusion (Piece.token.inj h).1
  · next kind hlead =>
    obtain ⟨rfl, rfl⟩ := Piece.token.inj h
    have hmark := Lead.announced_of c rest.head?
    rw [hlead] at hmark
    simp only [Lead.Announced, List.mem_cons, Prod.mk.injEq, reduceCtorEq, and_false, and_true,
      List.not_mem_nil, or_false] at hmark
    rw [hmark]
  · split at h
    · exact absurd h (fst_closed_ne (fun _ => Piece.noConfusion) fun _ => Piece.noConfusion)
    · exact Piece.noConfusion h
  · exact Piece.noConfusion h

theorem eq_semicolon_of_mem_pieces {v : Vocabulary} {text written : List Char}
    (h : .token .semicolon written ∈ pieces v text) : Piece.token .semicolon written = .semicolon := by
  have hfront : ∀ c rest w, (frontPiece v c rest).1 = .token .semicolon w → w = [';'] :=
    fun _ _ _ => eq_of_frontPiece_eq_semicolon
  have hall := forall_mem_pieces (P := fun p => ∀ w, p = .token .semicolon w → w = [';']) hfront text
  rw [hall _ h written rfl]
  rfl

theorem Keyword.tokenKind_ne_semicolon (k : Keyword) : k.tokenKind ≠ .semicolon := by
  unfold tokenKind
  split <;> exact TokenKind.noConfusion

theorem Vocabulary.kind_wordMatch_ne_semicolon (v : Vocabulary) (text : List Char) :
    (v.wordMatch text).kind ≠ .semicolon := by
  rcases v.wordMatch_cases text with h | ⟨taken, entry, -, -, h⟩
  · rw [h]
    exact TokenKind.noConfusion
  · rw [h]
    exact entry.keyword.tokenKind_ne_semicolon

/-- Holds of a text that is read without keywords as nothing, or as pieces of which the last is a semicolon. -/
def Settled (text : List Char) : Prop :=
  ∀ p, (pieces .empty text).getLast? = some p → p = .semicolon

namespace Settled

variable {text after : List Char} {p : Piece}

theorem of_pieces_eq (h : Settled text) (front : List Piece)
    (htext : pieces .empty text = front ++ pieces .empty after) : Settled after := by
  intro p hp
  apply h
  rw [htext, List.getLast?_append, hp]
  rfl

theorem ne_nil_of_pieces_eq (h : Settled text)
    (htext : pieces .empty text = p :: pieces .empty after) (hp : p ≠ .semicolon) : after ≠ [] := by
  rintro rfl
  apply hp
  apply h
  rw [htext, pieces]
  rfl

theorem exists_eq_append (h : Settled text) (hne : text ≠ []) : ∃ front, text = front ++ [';'] := by
  have htext := flatMap_text_pieces .empty text
  rcases (pieces .empty text).eq_nil_or_concat with hnil | ⟨ps, p, hconcat⟩
  · rw [hnil] at htext
    exact absurd htext.symm hne
  · rw [List.concat_eq_append] at hconcat
    obtain rfl : p = .semicolon := by
      apply h
      rw [hconcat, List.getLast?_concat]
    refine ⟨ps.flatMap Piece.text, ?_⟩
    rw [← htext, hconcat, List.flatMap_append]
    rfl

theorem afterWord_ne_nil (h : Settled text) (hne : text ≠ []) : afterWord text ≠ [] := by
  intro hafter
  have hword := frontWord_append_afterWord text
  rw [hafter, List.append_nil] at hword
  obtain ⟨front, hfront⟩ := h.exists_eq_append hne
  have hmem : ';' ∈ frontWord text := by
    rw [hword, hfront]
    exact List.mem_append_right front List.mem_cons_self
  have hpart := isWordPart_of_mem_frontWord hmem
  exact Bool.false_ne_true ((classes_of_mem_marks (by decide)).1.symm.trans hpart)

theorem eq_semicolon_of_singleton {c : Char} (h : Settled [c]) : c = ';' := by
  obtain ⟨front, hfront⟩ := h.exists_eq_append (List.cons_ne_nil c [])
  have hlast := congrArg List.getLast? hfront
  rw [List.getLast?_concat] at hlast
  exact Option.some.inj hlast

end Settled

end LoadScript
