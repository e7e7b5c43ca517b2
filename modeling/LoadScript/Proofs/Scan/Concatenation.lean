import LoadScript.Proofs.Scan.Settled

set_option autoImplicit false
set_option relaxedAutoImplicit false

namespace LoadScript

open Text Unicode

theorem semicolon_not_isWhiteSpace : isWhiteSpace ';' = false :=
  (classes_of_mem_marks (by decide)).2

theorem Lead.of_semicolon (next : Option Char) : Lead.of ';' next = .mark .semicolon := by
  simp [of, semicolon_not_isWhiteSpace, isDigit, isComparisonSign, isArithmeticSign]

theorem startsRemark_eq_false {text : List Char} {d : Char} (hd : isWordPart d = false)
    (h : d ∈ text.take 3) : startsRemark text = false := by
  refine Bool.eq_false_iff.2 fun hremark => ?_
  have hletters : ∀ {x y : Char}, isWordPart x = true → isWordPart y = true → ¬(d = x ∨ d = y) := by
    rintro x y hx hy (rfl | rfl)
    · exact Bool.false_ne_true (hd.symm.trans hx)
    · exact Bool.false_ne_true (hd.symm.trans hy)
  unfold startsRemark at hremark
  split at hremark
  · next r e m blank back =>
    simp only [Bool.and_eq_true, Bool.or_eq_true, beq_iff_eq] at hremark
    obtain ⟨⟨⟨hr, he⟩, hm⟩, -⟩ := hremark
    simp only [List.take_succ_cons, List.take_zero, List.mem_cons, List.not_mem_nil, or_false] at h
    rcases h with rfl | rfl | rfl
    · exact hletters (by decide) (by decide) hr
    · exact hletters (by decide) (by decide) he
    · exact hletters (by decide) (by decide) hm
  · exact absurd hremark Bool.false_ne_true

theorem frontWord_append {text : List Char} (h : afterWord text ≠ []) (more : List Char) :
    frontWord (text ++ more) = frontWord text ∧ afterWord (text ++ more) = afterWord text ++ more := by
  cases text with
  | nil => exact absurd rfl h
  | cons c rest =>
    rw [afterWord] at h
    rw [List.cons_append, frontWord, afterWord, frontWord, afterWord]
    split
    · next hstart =>
      rw [if_pos hstart] at h
      obtain ⟨hfront, hback⟩ := takeWhile_append_of_dropWhile_ne_nil h more
      exact ⟨by rw [hfront], hback⟩
    · exact ⟨rfl, rfl⟩

def EndsNumber (d : Char) : Prop :=
  isDigit d = false ∧ d ∉ ['.', 'e', 'E', '+', '-']

section Number

variable {d : Char} (hd : EndsNumber d) {front : List Char} (more : List Char)

include hd

theorem frontDigits_append_cons : frontDigits (front ++ d :: more) = frontDigits front := by
  unfold frontDigits
  induction front with
  | nil =>
    rw [List.nil_append, List.takeWhile_cons, if_neg (Bool.eq_false_iff.1 hd.1)]
    rfl
  | cons c rest ih => rw [List.cons_append, List.takeWhile_cons, List.takeWhile_cons, ih]

theorem frontSign_append_cons : frontSign (front ++ d :: more) = frontSign front := by
  cases front with
  | nil =>
    obtain ⟨-, hmarks⟩ := hd
    simp only [List.mem_cons, List.not_mem_nil, or_false, not_or] at hmarks
    unfold frontSign
    split
    · next h => exact absurd (Option.some.inj h) hmarks.2.2.2.1
    · next h => exact absurd (Option.some.inj h) hmarks.2.2.2.2
    · rfl
  | cons c rest => rfl

theorem frontExponent_append_cons : frontExponent (front ++ d :: more) = frontExponent front := by
  cases front with
  | nil =>
    have hletter : ¬(d = 'e' ∨ d = 'E') := fun h => hd.2 (by rcases h with rfl | rfl <;> simp)
    simp [frontExponent, hletter]
  | cons c rest =>
    have hsign := (frontSign_isPrefix rest).length_le
    rw [List.cons_append, frontExponent, frontExponent, frontSign_append_cons hd,
      List.drop_append_of_le_length hsign, frontDigits_append_cons hd]

theorem frontFraction_append_cons : frontFraction (front ++ d :: more) = frontFraction front := by
  cases front with
  | nil =>
    have hpoint : d ≠ '.' := fun h => hd.2 (by simp [h])
    simp [frontFraction, hpoint]
  | cons c rest => rw [List.cons_append, frontFraction, frontFraction, frontDigits_append_cons hd]

theorem frontNumber_append_cons : frontNumber (front ++ d :: more) = frontNumber front := by
  have hdigits : (frontDigits front).length ≤ front.length := (List.takeWhile_prefix _).length_le
  have hfraction := (frontFraction_isPrefix (front.drop (frontDigits front).length)).length_le
  rw [List.length_drop] at hfraction
  rw [frontNumber, frontNumber, frontDigits_append_cons hd, List.drop_append_of_le_length hdigits,
    frontFraction_append_cons hd, List.drop_append_of_le_length (by omega), frontExponent_append_cons hd]

end Number

namespace Settled

variable {v : Vocabulary} {text : List Char} {c : Char} {rest : List Char}

theorem frontPiece_snd_ne_nil (h : Settled (c :: rest))
    (hp : (frontPiece .empty c rest).1 ≠ .semicolon) : (frontPiece .empty c rest).2 ≠ [] :=
  h.ne_nil_of_pieces_eq (by rw [pieces]) hp

theorem frontPiece_ne_unterminated (h : Settled (c :: rest)) (form : LiteralForm) (left : List Char) :
    frontPiece .empty c rest ≠ (.unterminated form left, []) := by
  intro hfront
  have hne := h.frontPiece_snd_ne_nil
  rw [hfront] at hne
  exact hne Piece.noConfusion rfl

theorem gapPiece?_append_of_some (h : Settled (c :: rest)) {f : Filler} {after : List Char}
    (hpiece : gapPiece? (c :: rest) = some (f, after)) (more : List Char) :
    gapPiece? (c :: rest ++ more) = some (f, after ++ more) := by
  have hfront := frontPiece_of_gapPiece? .empty hpiece
  have hafter : after ≠ [] := by
    have hne := h.frontPiece_snd_ne_nil
    rw [hfront] at hne
    exact hne Piece.noConfusion
  rw [List.cons_append, gapPiece?]
  rcases gapPiece?_eq_some hpiece with ⟨hspace, rfl, rfl⟩ | ⟨hspace, ⟨hc, hslash⟩, rfl, rfl⟩ |
    ⟨hspace, hline, ⟨hc, hstar⟩, body, hbody, rfl⟩
  · obtain ⟨htake, hdrop⟩ := takeWhile_append_of_dropWhile_ne_nil hafter more
    rw [if_pos hspace, htake, hdrop]
  · obtain ⟨htake, hdrop⟩ := takeWhile_append_of_dropWhile_ne_nil hafter more
    obtain ⟨back, rfl⟩ := List.head?_eq_some_iff.1 hslash
    rw [if_neg hspace, if_pos ⟨hc, rfl⟩, htake, hdrop]
  · obtain ⟨back, rfl⟩ := List.head?_eq_some_iff.1 hstar
    have hthrough := throughStarSlash?_append hbody more
    have hhead : ('*' :: back ++ more).head? = ('*' :: back).head? := rfl
    rw [hhead, if_neg hspace, if_neg hline, if_pos ⟨hc, rfl⟩, List.cons_append, List.tail_cons]
    rw [List.tail_cons] at hthrough
    rw [hthrough]
    rfl

theorem gapPiece?_append_of_none (h : Settled (c :: rest)) (hpiece : gapPiece? (c :: rest) = none)
    (more : List Char) : gapPiece? (c :: rest ++ more) = none := by
  cases rest with
  | nil =>
    obtain rfl := h.eq_semicolon_of_singleton
    simp [gapPiece?, semicolon_not_isWhiteSpace]
  | cons d back =>
    have hhead : (d :: back ++ more).head? = (d :: back).head? := rfl
    obtain ⟨hspace, hline, hopen⟩ := gapPiece?_eq_none hpiece
    rw [List.cons_append, gapPiece?, hhead, if_neg (Bool.eq_false_iff.1 hspace), if_neg hline]
    by_cases hblock : c = '/' ∧ (d :: back).head? = some '*'
    · -- a comment that is open at the end would be the last piece
      have hlead : Lead.of c (d :: back).head? = .blockComment := by
        rw [Lead.of, if_neg (Bool.eq_false_iff.1 hspace), if_neg hline, if_pos hblock]
      have hfront : frontPiece .empty c (d :: back) = (.unterminated .blockComment ('/' :: '*' :: back), []) := by
        simp only [frontPiece, hlead, hopen hblock]
        rfl
      exact absurd hfront (h.frontPiece_ne_unterminated _ _)
    · rw [if_neg hblock]

theorem gap_append (h : Settled text) (hne : text ≠ []) (more : List Char) :
    gap (text ++ more) = ((gap text).1, (gap text).2 ++ more) ∧
      Settled (gap text).2 ∧ (gap text).2 ≠ [] := by
  fun_induction gap text with
  | case1 text hpiece =>
    obtain ⟨c, rest, rfl⟩ := List.exists_cons_of_ne_nil hne
    refine ⟨?_, h, hne⟩
    rw [gap.eq_def]
    split
    · rfl
    · next hsome =>
      rw [h.gapPiece?_append_of_none hpiece] at hsome
      exact absurd hsome.symm (Option.some_ne_none _)
  | case2 text f after hpiece ih =>
    obtain ⟨c, rest, rfl⟩ := List.exists_cons_of_ne_nil hne
    have htext : pieces .empty (c :: rest) = f.piece :: pieces .empty after := by
      rw [pieces, frontPiece_of_gapPiece? .empty hpiece]
    obtain ⟨hgap, hsettled⟩ :=
      ih (h.of_pieces_eq [f.piece] htext) (h.ne_nil_of_pieces_eq htext Piece.noConfusion)
    refine ⟨?_, hsettled⟩
    rw [gap.eq_def]
    split
    · next hnone =>
      rw [h.gapPiece?_append_of_some hpiece] at hnone
      exact absurd hnone (Option.some_ne_none _)
    · next hsome =>
      rw [h.gapPiece?_append_of_some hpiece] at hsome
      obtain ⟨rfl, rfl⟩ := Prod.mk.inj (Option.some.inj hsome)
      rw [hgap]

theorem lookAhead_append (hv : v.FreeOfRemarks) (h : Settled text) (hne : text ≠ []) (count : Nat)
    {seen : List (List Char)} (hseen : ∀ u ∈ seen, ' ' ∉ u) (more : List Char) :
    v.lookAhead count seen (text ++ more) = v.lookAhead count seen text := by
  induction count generalizing seen text with
  | zero => rfl
  | succ count ih =>
    obtain ⟨hgap, hsettled, hrest⟩ := h.gap_append hne more
    obtain ⟨hfront, hback⟩ := frontWord_append (hsettled.afterWord_ne_nil hrest) more
    simp only [Vocabulary.lookAhead, hgap, hfront, hback]
    split
    · split
      · rfl
      · next hword =>
        have hspace : ∀ u ∈ seen ++ [frontWord (gap text).2], ' ' ∉ u := by
          intro u hu
          rcases List.mem_append.1 hu with hu | hu
          · exact hseen u hu
          · rw [List.mem_singleton.1 hu]
            exact space_not_mem_frontWord _
        congr 1
        by_cases hremark : startsRemark (gap text).2 = true
        · have hclosed := hv.isOpening_append seen (frontWord (gap text).2) hspace
            (lowercase_frontWord_of_startsRemark hremark)
          cases count with
          | zero => rfl
          | succ count => simp only [Vocabulary.lookAhead, hclosed, Bool.false_eq_true, if_false]
        · have hpieces := pieces_empty_word (by simpa using hword) (Bool.eq_false_iff.2 hremark)
          exact ih (hsettled.of_pieces_eq [_] hpieces)
            (hsettled.ne_nil_of_pieces_eq hpieces Piece.noConfusion) hspace
    · rfl

theorem startsRemark_append (h : Settled text) (hne : text ≠ []) (more : List Char) :
    startsRemark (text ++ more) = startsRemark text := by
  obtain ⟨front, rfl⟩ := h.exists_eq_append hne
  have hend : isWordPart ';' = false := (classes_of_mem_marks (by decide)).1
  -- either the semicolon is among the first three characters, or the first four are in front of what follows
  rcases front with _ | ⟨r, _ | ⟨e, _ | ⟨m, back⟩⟩⟩
  · rw [startsRemark_eq_false hend (by simp), startsRemark_eq_false hend (by simp)]
  · rw [startsRemark_eq_false hend (by simp), startsRemark_eq_false hend (by simp)]
  · rw [startsRemark_eq_false hend (by simp), startsRemark_eq_false hend (by simp)]
  · cases back <;> rfl

theorem wordMatch_append (hv : v.FreeOfRemarks) (h : Settled text) (hne : text ≠ [])
    (hword : frontWord text ≠ []) (hremark : startsRemark text = false) (more : List Char) :
    v.wordMatch (text ++ more) = v.wordMatch text := by
  have hpieces := pieces_empty_word hword hremark
  have hafter : afterWord text ≠ [] := h.afterWord_ne_nil hne
  obtain ⟨hfront, hback⟩ := frontWord_append hafter more
  have hspace : ∀ u ∈ [frontWord text], ' ' ∉ u := by
    intro u hu
    rw [List.mem_singleton.1 hu]
    exact space_not_mem_frontWord text
  have hahead := lookAhead_append hv (h.of_pieces_eq [_] hpieces) hafter (v.maxWords - 1) hspace more
  have hhead : (afterWord text ++ more).head? = (afterWord text).head? := by
    obtain ⟨c, rest, hcons⟩ := List.exists_cons_of_ne_nil hafter
    rw [hcons]
    rfl
  simp only [Vocabulary.wordMatch, hfront, hback, hahead, hhead]

theorem fst_closed_append {piece : List Char → Piece} {form : LiteralForm} {opening body : List Char} {close : Char}
    (hclosed : ∀ form' left, closed piece form opening body (throughChar? close body) ≠ (.unterminated form' left, []))
    (more : List Char) :
    (closed piece form opening (body ++ more) (throughChar? close (body ++ more))).1 =
      (closed piece form opening body (throughChar? close body)).1 := by
  cases hfound : throughChar? close body with
  | none =>
    rw [hfound] at hclosed
    exact absurd rfl (hclosed form (opening ++ body))
  | some found =>
    rw [throughChar?_append hfound more]
    rfl

theorem fst_frontPiece_append (hv : v.FreeOfRemarks) (h : Settled (c :: rest)) (more : List Char) :
    (frontPiece v c (rest ++ more)).1 = (frontPiece v c rest).1 := by
  cases rest with
  | nil =>
    obtain rfl := h.eq_semicolon_of_singleton
    simp only [frontPiece, Lead.of_semicolon, cut]
  | cons d back =>
    cases hgap : gapPiece? (c :: d :: back) with
    | some found =>
      have hmore := h.gapPiece?_append_of_some hgap more
      rw [List.cons_append] at hmore
      rw [frontPiece_of_gapPiece? v hgap, frontPiece_of_gapPiece? v hmore]
    | none =>
      have hhead : (d :: back ++ more).head? = (d :: back).head? := rfl
      obtain ⟨hspace, hline, hblock⟩ := Lead.of_gapPiece?_eq_none hgap
      -- every piece in front of the last semicolon ends inside the settled text
      have hclosed := h.frontPiece_ne_unterminated
      unfold frontPiece at hclosed ⊢
      rw [hhead]
      cases hlead : Lead.of c (d :: back).head? with
      | whitespace => exact absurd hlead hspace
      | lineComment => exact absurd hlead hline
      | blockComment =>
        simp only [hlead, hblock hlead] at hclosed
        exact absurd rfl (hclosed _ _)
      | literal delimiter =>
        have hbody : (c :: (d :: back ++ more)).drop delimiter.opening.length =
            (c :: d :: back).drop delimiter.opening.length ++ more := by
          cases delimiter <;> rfl
        simp only [hlead] at hclosed
        simp only [hbody]
        exact fst_closed_append hclosed more
      | number =>
        obtain ⟨front, hfront⟩ := h.exists_eq_append (List.cons_ne_nil c _)
        have hnumber : frontNumber (c :: (d :: back ++ more)) = frontNumber (c :: d :: back) := by
          rw [← List.cons_append, hfront, List.append_assoc]
          have hend : EndsNumber ';' := ⟨by decide, by decide⟩
          exact (frontNumber_append_cons hend more).trans (frontNumber_append_cons hend []).symm
        simp only [hnumber]
        rfl
      | comparison => rfl
      | arithmetic => rfl
      | mark kind => rfl
      | word =>
        have hne : c :: d :: back ≠ [] := List.cons_ne_nil c _
        have hremark := h.startsRemark_append hne more
        rw [List.cons_append] at hremark
        simp only [hlead] at hclosed
        simp only [hremark]
        split
        · next hstarts =>
          rw [if_pos hstarts] at hclosed
          exact fst_closed_append hclosed more
        · next hstarts =>
          have hword : frontWord (c :: d :: back) ≠ [] := by
            simp [frontWord, Lead.isWordStart_of_of_eq_word hlead]
          have hmatch := wordMatch_append hv h hne hword (Bool.eq_false_iff.2 hstarts) more
          rw [List.cons_append] at hmatch
          rw [hmatch]
      | unknown => rfl

theorem frontPiece_append (hv : v.FreeOfRemarks) (h : Settled (c :: rest)) (more : List Char) :
    frontPiece v c (rest ++ more) =
      ((frontPiece v c rest).1, (frontPiece v c rest).2 ++ more) := by
  refine frontPiece_eq_of_text (h.fst_frontPiece_append hv more) ?_
  rw [← List.append_assoc, text_append_frontPiece, List.cons_append]

/-- The pieces of a text behind a settled text are those that it has on its own. -/
theorem pieces_append (hv : v.FreeOfRemarks) (h : Settled text) (more : List Char) :
    pieces v (text ++ more) = pieces v text ++ pieces v more := by
  fun_induction pieces v text with
  | case1 => rfl
  | case2 c rest ih =>
    have hplain := pieces_empty hv.later_wordMatch
    have hafter : Settled (frontPiece v c rest).2 := by
      refine h.of_pieces_eq (frontPiece v c rest).1.plain ?_
      rw [hplain (c :: rest), pieces, List.flatMap_cons, ← hplain]
    rw [List.cons_append, pieces, h.frontPiece_append hv, ih hafter, List.cons_append]

theorem of_getLast?_pieces (hv : v.FreeOfRemarks)
    (h : (pieces v text).getLast? = some .semicolon) : Settled text := by
  obtain ⟨ps, hps⟩ := List.getLast?_eq_some_iff.1 h
  have hplain : pieces .empty text = ps.flatMap Piece.plain ++ [.semicolon] := by
    rw [pieces_empty hv.later_wordMatch, hps, List.flatMap_append]
    rfl
  intro p hp
  rw [hplain, List.getLast?_concat] at hp
  exact (Option.some.inj hp).symm

end Settled

end LoadScript
