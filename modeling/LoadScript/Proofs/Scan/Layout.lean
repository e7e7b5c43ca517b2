import LoadScript.Proofs.Scan.WordsAhead

/-!
Scripts with other white space. In front of a text that agrees with the one behind it up to white space, and has the
same words ahead, every piece is read again. So pieces of which those of white space are replaced, each by white
space that starts with a newline, are the pieces of their text.
-/

set_option autoImplicit false
set_option relaxedAutoImplicit false

namespace LoadScript

open Text Unicode

/-- Holds of two lists of pieces if the second one has the pieces of the first one, and where the first one has
white space other white space that starts with a newline. -/
inductive Relaid : List Piece → List Piece → Prop
  | nil : Relaid [] []
  | whiteSpace {c : Char} {blank : List Char} (more : List Char) {ps qs : List Piece} : isWhiteSpace c = true →
    (∀ d ∈ blank, isWhiteSpace d = true) → Relaid ps qs →
    Relaid (.trivia .whitespace (c :: more) :: ps) (.trivia .whitespace ('\n' :: blank) :: qs)
  | same {p : Piece} {ps qs : List Piece} : (∀ text, p ≠ .trivia .whitespace text) → Relaid ps qs →
    Relaid (p :: ps) (p :: qs)

theorem Relaid.sameFront {ps qs : List Piece} (h : Relaid ps qs) :
    SameFront (ps.flatMap Piece.text) (qs.flatMap Piece.text) := by
  induction h with
  | nil => exact .nil
  | whiteSpace more hc hblank hrest ih => exact .space _ _ hc
  | @same p ps qs hp hrest ih =>
    rw [List.flatMap_cons, List.flatMap_cons]
    exact ih.append_left p.text

variable {v : Vocabulary} {c : Char} {rest more after b : List Char} {p : Piece}

theorem gapPiece?_ne_none {kind : TriviaKind} {text : List Char} (h : (frontPiece v c rest).1 = .trivia kind text)
    (hkind : kind ∈ gapKinds) : gapPiece? (c :: rest) ≠ none := by
  intro hnone
  obtain ⟨hspace, hline, hblock⟩ := Lead.of_gapPiece?_eq_none hnone
  unfold frontPiece at h
  split at h
  · next hlead => exact hspace hlead
  · next hlead => exact hline hlead
  · next hlead =>
    rw [hblock hlead] at h
    exact Piece.noConfusion h
  · exact absurd h (fst_closed_ne (fun _ => Piece.noConfusion) fun _ => Piece.noConfusion)
  · exact Piece.noConfusion h
  · exact Piece.noConfusion h
  · exact Piece.noConfusion h
  · exact Piece.noConfusion h
  · split at h
    · refine absurd h (fst_closed_ne (fun _ => Piece.noConfusion) fun t ht => ?_)
      obtain rfl := (Piece.trivia.inj ht).1
      exact absurd hkind (by decide)
    · exact Piece.noConfusion h
  · exact Piece.noConfusion h

theorem gapPiece?_again {f : Filler} {back : List Char} (hgap : gapPiece? (c :: rest) = some (f, back))
    (hfront : frontPiece v c rest = (p, after)) (htext : p.text ++ b = c :: more) (hsame : SameFront after b) :
    f.piece = p ∧ back = after ∧ gapPiece? (c :: more) = some (f, b) := by
  obtain ⟨hpiece, rfl⟩ := Prod.mk.inj ((frontPiece_of_gapPiece? v hgap).symm.trans hfront)
  have hagain := gapPiece?_append hgap hsame
  rw [← hpiece] at htext
  rw [show f.text ++ b = c :: more from htext] at hagain
  exact ⟨hpiece, rfl, hagain⟩

theorem fst_closed_again {piece : List Char → Piece} {form : LiteralForm} {opening body text : List Char}
    {close : Char} (hpiece : ∀ t, (piece t).text = t)
    (h : closed piece form opening body (throughChar? close body) = (p, after)) (hend : after ≠ [])
    (htext : p.text ++ b = text) :
    (closed piece form opening (text.drop opening.length) (throughChar? close (text.drop opening.length))).1 = p := by
  cases hfound : throughChar? close body with
  | none =>
    rw [hfound] at h
    exact absurd (congrArg Prod.snd h).symm hend
  | some found =>
    obtain ⟨inside, back⟩ := found
    rw [hfound] at h
    obtain ⟨rfl, rfl⟩ := Prod.mk.inj h
    have hagain := throughChar?_append (throughChar?_inside hfound) b
    rw [← htext, hpiece, List.append_assoc, List.drop_left, hagain]
    rfl

theorem fst_frontPiece_again (hv : v.StopsAtRemarks) (hfront : frontPiece v c rest = (p, after)) (hend : after ≠ [])
    (htext : p.text ++ b = c :: more) (hsame : SameFront after b) (hwords : wordsAhead after = wordsAhead b) :
    (frontPiece v c more).1 = p := by
  have hsource := text_append_frontPiece v c rest
  rw [hfront] at hsource
  have hall := hsame.append_left p.text
  rw [hsource, htext] at hall
  cases hgap : gapPiece? (c :: rest) with
  | some found =>
    obtain ⟨hpiece, -, hagain⟩ := gapPiece?_again hgap hfront htext hsame
    rw [frontPiece_of_gapPiece? v hagain, hpiece]
  | none =>
    obtain ⟨hspace, hline, hblock⟩ := Lead.of_gapPiece?_eq_none hgap
    -- no white space stands in front, so the two texts go on alike behind their first character
    have hrest : SameFront rest more := by
      obtain ⟨more', hmore, hrest⟩ := hall.tail (gapPiece?_eq_none hgap).1
      rwa [(List.cons.inj hmore).2]
    unfold frontPiece at hfront ⊢
    rw [← hrest.lead_eq c]
    cases hlead : Lead.of c rest.head? with
    | whitespace => exact absurd hlead hspace
    | lineComment => exact absurd hlead hline
    | blockComment =>
      simp only [hlead, hblock hlead] at hfront
      exact absurd (congrArg Prod.snd hfront).symm hend
    | literal delimiter =>
      simp only [hlead] at hfront ⊢
      exact fst_closed_again (fun _ => rfl) hfront hend htext
    | number =>
      have hnumber := (SameFront.cons c hrest).frontNumber_eq
      simp only [hlead] at hfront ⊢
      rw [← hnumber]
      exact congrArg Prod.fst hfront
    | comparison =>
      simp only [hlead] at hfront ⊢
      rw [← hrest.longComparison_eq c]
      split
      · next hlong =>
        rw [if_pos hlong] at hfront
        cases rest with
        | nil => exact absurd hlong Bool.false_ne_true
        | cons d back =>
          obtain ⟨rfl, rfl⟩ := Prod.mk.inj hfront
          obtain rfl : d :: b = more := (List.cons.inj htext).2
          rfl
      · next hshort =>
        rw [if_neg hshort] at hfront
        exact congrArg Prod.fst hfront
    | arithmetic =>
      simp only [hlead] at hfront ⊢
      exact congrArg Prod.fst hfront
    | mark kind =>
      simp only [hlead] at hfront ⊢
      exact congrArg Prod.fst hfront
    | word =>
      simp only [hlead] at hfront ⊢
      rw [← (SameFront.cons c hrest).startsRemark_eq]
      split
      · next hremark =>
        rw [if_pos hremark] at hfront
        exact fst_closed_again (fun _ => rfl) hfront hend htext
      · next hremark =>
        rw [if_neg hremark] at hfront
        obtain ⟨rfl, rfl⟩ := Prod.mk.inj hfront
        have hagain := Vocabulary.wordMatch_eq hv hsource hsame hwords
        rw [show (v.wordMatch (c :: rest)).text ++ b = c :: more from htext] at hagain
        rw [hagain]
    | unknown =>
      simp only [hlead] at hfront ⊢
      exact congrArg Prod.fst hfront

theorem frontPiece_again (hv : v.StopsAtRemarks) (hfront : frontPiece v c rest = (p, after))
    (htext : p.text ++ b = c :: more) (hsame : SameFront after b) (hwords : wordsAhead after = wordsAhead b) :
    frontPiece v c more = (p, b) := by
  by_cases hend : after = []
  · obtain rfl := hend
    obtain rfl := hsame.eq_nil_iff.1 rfl
    have hsource := text_append_frontPiece v c rest
    rw [hfront, htext] at hsource
    rw [(List.cons.inj hsource).2]
    exact hfront
  · exact frontPiece_eq_of_text (fst_frontPiece_again hv hfront hend htext hsame hwords) htext

theorem wordsAhead_of_gapPiece? {text : List Char} {f : Filler} (h : gapPiece? text = some (f, after)) :
    wordsAhead text = wordsAhead after := by
  have hgap : (gap text).2 = (gap after).2 := by rw [gap, h]
  by_cases hword : frontWord (gap after).2 = []
  · rw [wordsAhead_of_nil hword, wordsAhead_of_nil (hgap ▸ hword)]
  · rw [wordsAhead_of_ne_nil hword, wordsAhead_of_ne_nil (hgap ▸ hword), hgap]

theorem wordsAhead_of_isWordStart (hstart : isWordStart c = true) (rest : List Char) :
    wordsAhead (c :: rest) = if lowercase (frontWord (c :: rest)) = remarkWord then [frontWord (c :: rest)]
      else frontWord (c :: rest) :: wordsAhead (afterWord (c :: rest)) := by
  have hgap := gap_of_isWordStart hstart rest
  have hword : frontWord (gap (c :: rest)).2 ≠ [] := by simp [hgap, frontWord, hstart]
  rw [wordsAhead_of_ne_nil hword, hgap]

theorem wordsAhead_eq_nil (hgap : gapPiece? (c :: rest) = none) (hstart : isWordStart c = false) :
    wordsAhead (c :: rest) = [] := by
  apply wordsAhead_of_nil
  rw [gap, hgap]
  exact if_neg (Bool.eq_false_iff.1 hstart)

theorem wordsAhead_again (hv : v.StopsAtRemarks) (hfront : frontPiece v c rest = (p, after))
    (htext : p.text ++ b = c :: more) (hsame : SameFront after b) (hwords : wordsAhead after = wordsAhead b) :
    wordsAhead (c :: rest) = wordsAhead (c :: more) := by
  have hagain := frontPiece_again hv hfront htext hsame hwords
  have hsource := text_append_frontPiece v c rest
  rw [hfront] at hsource
  cases hgap : gapPiece? (c :: rest) with
  | some found =>
    obtain ⟨-, hback, hgapAgain⟩ := gapPiece?_again hgap hfront htext hsame
    rw [wordsAhead_of_gapPiece? hgap, wordsAhead_of_gapPiece? hgapAgain, hback, hwords]
  | none =>
    by_cases hstart : isWordStart c = true
    · have hall := hsame.append_left p.text
      rw [hsource, htext] at hall
      rw [wordsAhead_of_isWordStart hstart, wordsAhead_of_isWordStart hstart, ← hall.frontWord_eq.1]
      split
      · rfl
      · next hremark =>
        have hstarts : startsRemark (c :: rest) = false :=
          Bool.eq_false_iff.2 fun h => hremark (lowercase_frontWord_of_startsRemark h)
        obtain ⟨rfl, rfl⟩ := Prod.mk.inj (hfront.symm.trans (frontPiece_word v hstart hstarts))
        have hbehind := v.wordsAhead_afterWord hsource hsame hwords
        rw [hbehind]
        exact congrArg (fun text => _ :: wordsAhead (afterWord text)) htext
    · have hstart := Bool.eq_false_iff.2 hstart
      have hgapAgain : gapPiece? (c :: more) = none := by
        refine Option.eq_none_iff_forall_ne_some.2 fun found hfound => ?_
        have hpiece := congrArg Prod.fst (hagain.symm.trans (frontPiece_of_gapPiece? v hfound))
        exact gapPiece?_ne_none ((congrArg Prod.fst hfront).trans hpiece) (kind_of_gapPiece? hfound) hgap
      rw [wordsAhead_eq_nil hgap hstart, wordsAhead_eq_nil hgapAgain hstart]

theorem gapPiece?_whiteSpace {text : List Char} (h : frontPiece v c rest = (.trivia .whitespace text, after)) :
    gapPiece? (c :: rest) = some (⟨.whitespace, text⟩, after) ∧
      (isWhiteSpace c = true ∧ ∃ more, text = c :: more) ∧ ∀ d ∈ after.head?, isWhiteSpace d = false := by
  obtain ⟨⟨f, back⟩, hgap⟩ := Option.ne_none_iff_exists'.1 (gapPiece?_ne_none (congrArg Prod.fst h) (by decide))
  rw [frontPiece_of_gapPiece? v hgap] at h
  obtain ⟨hpiece, rfl⟩ := Prod.mk.inj h
  obtain ⟨hkind, rfl⟩ := Piece.trivia.inj hpiece
  rcases gapPiece?_eq_some hgap with ⟨hspace, rfl, rfl⟩ | ⟨-, -, rfl, -⟩ | ⟨-, -, -, body, -, rfl⟩
  · exact ⟨hgap, ⟨hspace, _, rfl⟩, head?_dropWhile_eq_false rest⟩
  · exact TriviaKind.noConfusion hkind
  · exact TriviaKind.noConfusion hkind

theorem exists_of_whiteSpace_mem_pieces {text written : List Char}
    (h : .trivia .whitespace written ∈ pieces v text) :
    ∃ c more, written = c :: more ∧ isWhiteSpace c = true := by
  have hfront : ∀ c rest t, (frontPiece v c rest).1 = .trivia .whitespace t →
      ∃ c more, t = c :: more ∧ isWhiteSpace c = true := by
    intro c rest t ht
    obtain ⟨-, ⟨hc, more, hmore⟩, -⟩ := gapPiece?_whiteSpace (Prod.ext ht rfl)
    exact ⟨c, more, hmore, hc⟩
  exact forall_mem_pieces
    (P := fun p => ∀ t, p = .trivia .whitespace t → ∃ c more, t = c :: more ∧ isWhiteSpace c = true)
    hfront text _ h written rfl

theorem gapPiece?_blank {blank : List Char} (hc : isWhiteSpace c = true)
    (hblank : ∀ d ∈ blank, isWhiteSpace d = true) (hb : ∀ d ∈ b.head?, isWhiteSpace d = false) :
    gapPiece? (c :: (blank ++ b)) = some (⟨.whitespace, c :: blank⟩, b) := by
  obtain ⟨htake, hdrop⟩ := takeWhile_append_of_head? hblank hb
  rw [gapPiece?, if_pos hc, htake, hdrop]

/-- Pieces that take the places of those of a text are the pieces of their text. -/
theorem pieces_relaid (hv : v.StopsAtRemarks) (text : List Char) {qs : List Piece} (h : Relaid (pieces v text) qs) :
    pieces v (qs.flatMap Piece.text) = qs ∧ wordsAhead text = wordsAhead (qs.flatMap Piece.text) := by
  fun_induction pieces v text generalizing qs with
  | case1 =>
    cases h
    exact ⟨pieces.eq_1 v, rfl⟩
  | case2 c rest ih =>
    obtain ⟨p, after, hfront⟩ : ∃ p after, frontPiece v c rest = (p, after) := ⟨_, _, rfl⟩
    rw [hfront] at h ih
    cases h with
    | @whiteSpace d blank more ps qs hd hblank hrest =>
      obtain ⟨hpieces, hwords⟩ := ih hrest
      have hsame := hrest.sameFront
      rw [flatMap_text_pieces] at hsame
      obtain ⟨hgap, -, hafter⟩ := gapPiece?_whiteSpace hfront
      -- neither the old nor the new white space goes on in what follows, so both are read to the same place
      have hagain := gapPiece?_blank newline_isWhiteSpace hblank (hsame.head?_not_isWhiteSpace hafter)
      rw [List.flatMap_cons, Piece.text, List.cons_append, pieces, frontPiece_of_gapPiece? v hagain, hpieces,
        wordsAhead_of_gapPiece? hgap, wordsAhead_of_gapPiece? hagain]
      exact ⟨rfl, hwords⟩
    | @same p ps qs hp hrest =>
      obtain ⟨hpieces, hwords⟩ := ih hrest
      have hsame := hrest.sameFront
      rw [flatMap_text_pieces] at hsame
      have hne := text_frontPiece_ne_nil v c rest
      have hsource := text_append_frontPiece v c rest
      rw [hfront] at hne hsource
      obtain ⟨d, head, hhead⟩ := List.exists_cons_of_ne_nil hne
      obtain rfl : d = c := by
        rw [hhead] at hsource
        exact (List.cons.inj hsource).1
      have htext : p.text ++ qs.flatMap Piece.text = d :: (head ++ qs.flatMap Piece.text) := by
        rw [hhead, List.cons_append]
      have hagain := frontPiece_again hv hfront htext hsame hwords
      rw [List.flatMap_cons, wordsAhead_again hv hfront htext hsame hwords, htext, pieces, hagain, hpieces]
      exact ⟨rfl, rfl⟩

end LoadScript
