import LoadScript.Proofs.Scan.Grammar
import LoadScript.Proofs.Scan.LetterCase

/-!
What the reader cuts off is what the grammar describes. The rules are tried in a fixed order, but each of them takes
the longest front that it allows, so every piece has the shape of its kind in front of the text that is left.
-/

set_option autoImplicit false
set_option relaxedAutoImplicit false

namespace LoadScript

open Text Unicode

section Numbers

variable {digits text : List Char} {c : Char} {rest : List Char}

theorem frontDigits_append (h : ∀ d ∈ digits, isDigit d = true) (back : List Char) :
    frontDigits (digits ++ back) = digits ++ frontDigits back :=
  List.takeWhile_append_of_pos h

theorem frontDigits_cons_of_not (h : isDigit c = false) (rest : List Char) : frontDigits (c :: rest) = [] :=
  List.takeWhile_cons_of_neg (Bool.eq_false_iff.1 h)

theorem frontFraction_eq_nil_or (text : List Char) :
    frontFraction text = [] ∨ ∃ digits, IsRun isDigit digits ∧ frontFraction text = '.' :: digits := by
  cases text with
  | nil => exact Or.inl rfl
  | cons c rest =>
    rw [frontFraction]
    split
    · next h =>
      obtain ⟨rfl, hdigits⟩ := h
      exact Or.inr ⟨_, isRun_takeWhile hdigits, rfl⟩
    · exact Or.inl rfl

theorem frontExponent_eq_nil_or (text : List Char) :
    frontExponent text = [] ∨ IsExponent (frontExponent text) := by
  cases text with
  | nil => exact Or.inl rfl
  | cons c rest =>
    simp only [frontExponent]
    split
    · next h =>
      refine Or.inr ⟨c, frontSign rest, _, rfl, by simpa using h.1, ?_, isRun_takeWhile h.2⟩
      unfold frontSign
      split <;> simp
    · exact Or.inl rfl

theorem isNumeral_frontNumber (h : isDigit c = true) :
    IsNumeral (frontNumber (c :: rest)).1 (frontNumber (c :: rest)).2 := by
  have hwhole : IsRun isDigit (frontDigits (c :: rest)) :=
    isRun_takeWhile (by rw [List.takeWhile_cons_of_pos h]; exact List.cons_ne_nil _ _)
  simp only [frontNumber]
  split
  · exact .integer hwhole
  · next hfraction =>
    obtain ⟨digits, hdigits, hpoint⟩ := (frontFraction_eq_nil_or _).resolve_left hfraction
    rw [hpoint, List.append_assoc, List.cons_append]
    exact .float hwhole hdigits (frontExponent_eq_nil_or _)

theorem point_mem_iff_of_isNumeral {form : NumberForm} (h : IsNumeral form text) :
    '.' ∈ text ↔ form = .float := by
  cases h with
  | integer hwhole =>
    refine iff_of_false (fun hmem => ?_) NumberForm.noConfusion
    exact absurd (hwhole.2 '.' hmem) (by decide)
  | float => simp

theorem isNumeral_unique {f g : NumberForm} (hf : IsNumeral f text) (hg : IsNumeral g text) : f = g := by
  have h := (point_mem_iff_of_isNumeral hf).symm.trans (point_mem_iff_of_isNumeral hg)
  cases f <;> cases g <;> simp_all

theorem length_le_frontExponent {exponent : List Char} (h : IsExponent exponent) (back : List Char) :
    exponent.length ≤ (frontExponent (exponent ++ back)).length := by
  obtain ⟨letter, sign, digits, rfl, hletter, hsign, hne, hdigits⟩ := h
  have hfront : frontSign (sign ++ (digits ++ back)) = sign := by
    obtain ⟨d, more, rfl⟩ := List.exists_cons_of_ne_nil hne
    have hd := hdigits d List.mem_cons_self
    simp only [List.mem_cons, List.not_mem_nil, or_false] at hsign
    rcases hsign with rfl | rfl | rfl
    · unfold frontSign
      split
      · next hplus =>
        obtain rfl : d = '+' := Option.some.inj hplus
        exact absurd hd (by decide)
      · next hminus =>
        obtain rfl : d = '-' := Option.some.inj hminus
        exact absurd hd (by decide)
      · rfl
    · rfl
    · rfl
  have hletter : letter = 'e' ∨ letter = 'E' := by simpa using hletter
  have hsome : digits ++ frontDigits back ≠ [] := by simp [hne]
  simp only [List.cons_append, List.append_assoc, frontExponent, hfront, List.drop_left,
    frontDigits_append hdigits]
  rw [if_pos ⟨hletter, hsome⟩]
  simp

theorem length_frontDigits_le (text : List Char) : (frontDigits text).length ≤ (frontNumber text).2.length := by
  simp only [frontNumber]
  split <;> simp

theorem length_le_frontNumber {form : NumberForm} {number : List Char} (h : IsNumeral form number)
    (hbegins : number <+: text) : number.length ≤ (frontNumber text).2.length := by
  cases h with
  | integer hwhole =>
    exact Nat.le_trans (isPrefix_takeWhile hbegins hwhole.2).length_le (length_frontDigits_le text)
  | @float whole fraction exponent hwhole hfraction hexponent =>
    obtain ⟨back, rfl⟩ := hbegins
    have hwhole : frontDigits (whole ++ '.' :: (fraction ++ (exponent ++ back))) = whole := by
      rw [frontDigits_append hwhole.2, frontDigits_cons_of_not (by decide), List.append_nil]
    have hpoint : frontFraction ('.' :: (fraction ++ (exponent ++ back))) =
        '.' :: (fraction ++ frontDigits (exponent ++ back)) := by
      rw [frontFraction, frontDigits_append hfraction.2, if_pos ⟨rfl, by simp [hfraction.1]⟩]
    simp only [List.append_assoc, List.cons_append, frontNumber, hwhole, List.drop_left, hpoint]
    rw [if_neg (List.cons_ne_nil _ _)]
    rcases hexponent with rfl | hexponent
    · simp only [List.length_append, List.length_cons, List.length_nil]
      omega
    · have hdigits : frontDigits (exponent ++ back) = [] := by
        obtain ⟨letter, sign, digits, rfl, hletter, -⟩ := hexponent
        refine frontDigits_cons_of_not ?_ _
        have hletters : (['e', 'E'].all fun c => !isDigit c) = true := by decide
        simpa using List.all_eq_true.1 hletters letter hletter
      have hdrop : (whole ++ '.' :: (fraction ++ (exponent ++ back))).drop
          (whole.length + ('.' :: (fraction ++ [])).length) = exponent ++ back := by
        simp
      have hle := length_le_frontExponent hexponent back
      rw [hdigits, hdrop]
      simp only [List.length_append, List.length_cons, List.length_nil]
      omega

/-- A number is the longest front of its text that is one, and it has one form only. -/
theorem shape_frontNumber {after : List Char} (h : isDigit c = true)
    (htext : (frontNumber (c :: rest)).2 ++ after = c :: rest) :
    (TokenKind.number (frontNumber (c :: rest)).1).Shape (frontNumber (c :: rest)).2 after := by
  have hnumeral : IsNumeral (frontNumber (c :: rest)).1 (frontNumber (c :: rest)).2 := isNumeral_frontNumber h
  constructor
  · refine ⟨⟨_, hnumeral⟩, ?_⟩
    rintro other ⟨form, hother⟩ hbegins
    rw [htext] at hbegins
    exact length_le_frontNumber hother hbegins
  · intro f
    constructor
    · intro hf
      exact isNumeral_unique hf hnumeral
    · rintro rfl
      exact hnumeral

end Numbers

theorem length_le_of_mem_comparisons {other : List Char} (h : other ∈ comparisons) : other.length ≤ 2 := by
  have hlength : (comparisons.all fun t => t.length ≤ 2) = true := by decide
  simpa using List.all_eq_true.1 hlength other h

theorem mem_longComparisons_of_mem_comparisons {other : List Char} (h : other ∈ comparisons) :
    other.length ≤ 1 ∨ ∃ c d, other = [c, d] ∧ (c, d) ∈ longComparisons := by
  simp only [comparisons, List.mem_cons, List.not_mem_nil, or_false] at h
  rcases h with rfl | rfl | rfl | rfl | rfl | rfl | rfl | rfl
  iterate 5 exact Or.inr ⟨_, _, rfl, by decide⟩
  iterate 3 exact Or.inl (Nat.le_refl 1)

theorem longestFront_comparison {c : Char} {rest front after : List Char} (hc : isComparisonSign c = true)
    (hfront : front = if rest.head?.any fun d => longComparisons.contains (c, d) then (c :: rest).take 2 else [c])
    (htext : front ++ after = c :: rest) : LongestFront (· ∈ comparisons) front after := by
  have hsign : [c] ∈ comparisons := by
    simp only [isComparisonSign, Bool.or_eq_true, beq_iff_eq] at hc
    rcases hc with (rfl | rfl) | rfl <;> decide
  by_cases hlong : ∃ d back, rest = d :: back ∧ (c, d) ∈ longComparisons
  · obtain ⟨d, back, rfl, hmem⟩ := hlong
    obtain rfl : front = [c, d] := by simpa [hmem] using hfront
    refine ⟨?_, fun other hother _ => length_le_of_mem_comparisons hother⟩
    have hpairs : (longComparisons.all fun p => [p.1, p.2] ∈ comparisons) = true := by decide
    simpa using List.all_eq_true.1 hpairs (c, d) hmem
  · have hshort : (rest.head?.any fun d => longComparisons.contains (c, d)) = false := by
      cases rest with
      | nil => rfl
      | cons d back => simpa using fun hmem => hlong ⟨d, back, rfl, hmem⟩
    obtain rfl : front = [c] := by
      rw [hfront, hshort]
      rfl
    refine ⟨hsign, ?_⟩
    intro other hother hbegins
    rcases mem_longComparisons_of_mem_comparisons hother with hle | ⟨x, y, rfl, hmem⟩
    · exact hle
    · rw [htext] at hbegins
      obtain ⟨rfl, back, rfl⟩ := List.cons_prefix_cons.1 hbegins
      exact absurd ⟨y, back, rfl, hmem⟩ hlong

section Words

variable {text after : List Char} {f : Filler}

theorem shape_of_gapPiece? (h : gapPiece? text = some (f, after)) : f.kind.Shape f.text after := by
  cases text with
  | nil => exact absurd h.symm (Option.some_ne_none _)
  | cons c rest =>
    rcases gapPiece?_eq_some h with ⟨hspace, rfl, rfl⟩ | ⟨-, ⟨rfl, hslash⟩, rfl, rfl⟩ |
      ⟨-, -, -, body, hbody, rfl⟩
    · have hrun : (c :: rest).takeWhile isWhiteSpace ≠ [] := by simp [hspace]
      have hblank := longestFront_takeWhile hrun
      rwa [List.takeWhile_cons_of_pos hspace, List.dropWhile_cons_of_pos hspace] at hblank
    · obtain ⟨back, rfl⟩ := List.head?_eq_some_iff.1 hslash
      refine ⟨⟨back.takeWhile (· ≠ '\n'), by simp⟩, ?_, ?_⟩
      · intro hmem
        have hnewline : '\n' ∈ back.takeWhile (· ≠ '\n') := by simpa using hmem
        simpa using mem_takeWhile hnewline
      · cases hend : ('/' :: back).dropWhile (· ≠ '\n') with
        | nil => exact Or.inl rfl
        | cons d more =>
          have hd := head?_dropWhile_eq_false (p := (· ≠ '\n')) ('/' :: back) d (by rw [hend]; rfl)
          exact Or.inr (congrArg some (by simpa using hd))
    · obtain ⟨inside, rfl, hinside⟩ := body_of_throughStarSlash? hbody
      exact ⟨inside, rfl, hinside⟩

theorem isGap_gap (h : (gap text).1 ≠ []) : IsGap ((gap text).1.flatMap Filler.text) (gap text).2 := by
  fun_induction gap text with
  | case1 => exact absurd rfl h
  | case2 text f after hpiece ih =>
    have hshape := shape_of_gapPiece? hpiece
    by_cases hnil : (gap after).1 = []
    · have hafter := append_gap after
      rw [hnil, List.flatMap_nil, List.nil_append] at hafter
      rw [hnil, List.flatMap_singleton, hafter]
      exact .one (kind_of_gapPiece? hpiece) hshape
    · rw [List.flatMap_cons]
      rw [← append_gap after] at hshape
      exact .cons (kind_of_gapPiece? hpiece) hshape (ih hnil)

theorem frontWord_afterWord (text : List Char) : frontWord (afterWord text) = [] := by
  cases text with
  | nil => rfl
  | cons c rest =>
    rw [afterWord]
    split
    · cases hend : rest.dropWhile isWordPart with
      | nil => rfl
      | cons d more =>
        have hd := head?_dropWhile_eq_false (p := isWordPart) rest d (by rw [hend]; rfl)
        rw [frontWord, isWordStart_eq_false_of_not_isWordPart hd]
        rfl
    · next hstart => rw [frontWord, if_neg hstart]

theorem gap_afterWord_ne_nil (h : frontWord (gap (afterWord text)).2 ≠ []) : (gap (afterWord text)).1 ≠ [] := by
  intro hnil
  have hgap := append_gap (afterWord text)
  rw [hnil, List.flatMap_nil, List.nil_append] at hgap
  rw [hgap, frontWord_afterWord] at h
  exact h rfl

theorem isPhrase_of_isPrefix {taken : List LaterWord} (hword : frontWord text ≠ [])
    (htaken : taken <+: laterWords (afterWord text))
    (htext : frontWord text ++ taken.flatMap LaterWord.text ++ after = text) :
    IsPhrase (frontWord text ++ taken.flatMap LaterWord.text) after := by
  induction taken generalizing text with
  | nil =>
    rw [List.flatMap_nil, List.append_nil] at htext ⊢
    have hafter : afterWord text = after :=
      List.append_cancel_left ((frontWord_append_afterWord text).trans htext.symm)
    rw [← hafter]
    exact .one (longestFront_frontWord hword)
  | cons w rest ih =>
    obtain ⟨hnext, rfl, hrest⟩ := cons_isPrefix_laterWords htaken
    -- the gap behind the word, and the phrase behind the gap, each with all the text that follows it
    have hafter : (gap (afterWord text)).1.flatMap Filler.text ++
        (frontWord (gap (afterWord text)).2 ++ rest.flatMap LaterWord.text ++ after) = afterWord text := by
      have hsplit := htext.trans (frontWord_append_afterWord text).symm
      rw [List.append_assoc] at hsplit
      simpa [LaterWord.text] using List.append_cancel_left hsplit
    have htail : frontWord (gap (afterWord text)).2 ++ rest.flatMap LaterWord.text ++ after =
        (gap (afterWord text)).2 :=
      List.append_cancel_left (hafter.trans (append_gap (afterWord text)).symm)
    have hgap := isGap_gap (gap_afterWord_ne_nil hnext)
    have hfront := longestFront_frontWord hword
    rw [← htail] at hgap
    rw [← hafter, ← List.append_assoc] at hfront
    have hphrase := IsPhrase.cons hfront hgap (ih hnext hrest htail)
    simpa [LaterWord.text] using hphrase

end Words

theorem startsRemark_iff (text : List Char) : startsRemark text = true ↔ OpensRemark text := by
  constructor
  · intro h
    unfold startsRemark at h
    split at h
    · next r e m blank back =>
      simp only [Bool.and_eq_true, Bool.or_eq_true, beq_iff_eq] at h
      obtain ⟨⟨⟨hr, he⟩, hm⟩, hblank⟩ := h
      refine ⟨[r, e, m], blank, back, rfl, ?_, hblank⟩
      rcases hr with rfl | rfl <;> rcases he with rfl | rfl <;> rcases hm with rfl | rfl <;> rfl
    · exact absurd h Bool.false_ne_true
  · rintro ⟨word, blank, back, rfl, hword, hblank⟩
    have hlower : lowered (word ++ blank :: back) = 'r' :: 'e' :: 'm' :: blank.toLower :: lowered back := by
      rw [lowered_append, lowered_cons, lowered, hword]
      rfl
    rw [← startsRemark_lowered, hlower, startsRemark, isWhiteSpace_toLower, hblank]
    rfl

theorem opensRemark_inside {inside after : List Char} (h : OpensRemark (inside ++ after)) (hmem : ';' ∈ inside) :
    OpensRemark inside := by
  obtain ⟨word, blank, back, hsplit, hword, hblank⟩ := h
  rw [List.append_cons] at hsplit
  rcases List.prefix_or_prefix_of_prefix ⟨after, hsplit⟩ (List.prefix_append (word ++ [blank]) back) with hle | hle
  · exfalso
    rcases List.mem_append.1 (hle.subset hmem) with hfirst | hfirst
    · have hlower : (';').toLower ∈ remarkWord := by
        rw [← hword]
        exact List.mem_map_of_mem hfirst
      exact absurd hlower (by decide)
    · rw [← List.mem_singleton.1 hfirst, semicolon_not_isWhiteSpace] at hblank
      exact Bool.false_ne_true hblank
  · obtain ⟨more, rfl⟩ := hle
    exact ⟨word, blank, more, (List.append_cons word blank more).symm, hword, hblank⟩

theorem Vocabulary.shape_wordMatch (v : Vocabulary) {text after : List Char} (hword : frontWord text ≠ [])
    (hremark : startsRemark text = false) (htext : (v.wordMatch text).text ++ after = text) :
    (v.wordMatch text).kind.Shape (v.wordMatch text).text after := by
  have hopens : ¬OpensRemark ((v.wordMatch text).text ++ after) := by
    rw [htext, ← startsRemark_iff, hremark]
    exact Bool.false_ne_true
  rcases v.wordMatch_cases text with h | ⟨taken, entry, htaken, -, h⟩
  · rw [h] at htext hopens ⊢
    have hafter : afterWord text = after :=
      List.append_cancel_left ((frontWord_append_afterWord text).trans (by simpa [WordMatch.text] using htext.symm))
    have hfront := longestFront_frontWord hword
    rw [hafter] at hfront
    exact ⟨by simpa [WordMatch.text] using hfront, hopens⟩
  · rw [h] at htext hopens ⊢
    have hphrase := isPhrase_of_isPrefix hword htaken htext
    unfold Keyword.tokenKind
    split
    · exact ⟨hphrase, hopens⟩
    · exact ⟨hphrase, hopens⟩

def Piece.Shape (p : Piece) (after : List Char) : Prop :=
  match p with
  | .trivia kind text => kind.Shape text after
  | .unknown ch => TriviaKind.skipped.Shape [ch] after
  | .unterminated _ text => TriviaKind.skipped.Shape text after
  | .token kind text => kind.Shape text after
  | .words found => found.kind.Shape found.text after

theorem Lead.not_of_ite_eq {p : Prop} [Decidable p] {a b lead : Lead} (h : (if p then a else b) = lead)
    (hne : a ≠ lead) : ¬p ∧ b = lead := by
  by_cases hp : p
  · exact absurd ((if_pos hp).symm.trans h) hne
  · exact ⟨hp, (if_neg hp).symm.trans h⟩

theorem not_isPrefix_of_head? {c d e : Char} {rest : List Char} (h : ¬(c = d ∧ rest.head? = some e)) :
    ¬[d, e] <+: c :: rest := by
  rw [List.cons_prefix_cons]
  rintro ⟨rfl, back, rfl⟩
  exact h ⟨rfl, rfl⟩

theorem startsNothing_of_lead {c : Char} {rest : List Char} (h : Lead.of c rest.head? = .unknown) :
    StartsNothing c rest := by
  unfold Lead.of at h
  obtain ⟨hspace, h⟩ := Lead.not_of_ite_eq h (by decide)
  obtain ⟨-, h⟩ := Lead.not_of_ite_eq h (by decide)
  obtain ⟨-, h⟩ := Lead.not_of_ite_eq h (by decide)
  obtain ⟨hsingle, h⟩ := Lead.not_of_ite_eq h (by decide)
  obtain ⟨hdouble, h⟩ := Lead.not_of_ite_eq h (by decide)
  obtain ⟨hbracket, h⟩ := Lead.not_of_ite_eq h (by decide)
  obtain ⟨hexpansion, h⟩ := Lead.not_of_ite_eq h (by decide)
  obtain ⟨hdigit, h⟩ := Lead.not_of_ite_eq h (by decide)
  obtain ⟨hcomparison, h⟩ := Lead.not_of_ite_eq h (by decide)
  obtain ⟨harithmetic, h⟩ := Lead.not_of_ite_eq h (by decide)
  obtain ⟨hsemicolon, h⟩ := Lead.not_of_ite_eq h (by decide)
  obtain ⟨hcomma, h⟩ := Lead.not_of_ite_eq h (by decide)
  obtain ⟨hcolon, h⟩ := Lead.not_of_ite_eq h (by decide)
  obtain ⟨hleft, h⟩ := Lead.not_of_ite_eq h (by decide)
  obtain ⟨hright, h⟩ := Lead.not_of_ite_eq h (by decide)
  obtain ⟨hword, -⟩ := Lead.not_of_ite_eq h (by decide)
  refine ⟨Bool.eq_false_iff.2 hspace, Bool.eq_false_iff.2 hdigit, Bool.eq_false_iff.2 hword, ?_,
    not_isPrefix_of_head? hexpansion⟩
  simp only [isComparisonSign, isArithmeticSign, Bool.or_eq_true, beq_iff_eq, not_or] at hcomparison harithmetic
  simp only [List.mem_cons, List.not_mem_nil, or_false, not_or]
  exact ⟨hsingle, hdouble, hbracket, hcomparison.1.1, hcomparison.1.2, hcomparison.2, harithmetic.1.1.1.1,
    harithmetic.1.1.1.2, harithmetic.1.1.2, harithmetic.1.2, harithmetic.2, hsemicolon, hcomma, hcolon, hleft,
    hright⟩

theorem not_comment_of_lead {c : Char} {rest : List Char} (h : Lead.of c rest.head? = .arithmetic) :
    ¬['/', '/'] <+: c :: rest ∧ ¬['/', '*'] <+: c :: rest := by
  unfold Lead.of at h
  obtain ⟨-, h⟩ := Lead.not_of_ite_eq h (by decide)
  obtain ⟨hline, h⟩ := Lead.not_of_ite_eq h (by decide)
  obtain ⟨hblock, -⟩ := Lead.not_of_ite_eq h (by decide)
  exact ⟨not_isPrefix_of_head? hline, not_isPrefix_of_head? hblock⟩

theorem Delimiter.shape_closed (delimiter : Delimiter) (body : List Char) :
    let read := closed (.token delimiter.tokenKind) delimiter.form delimiter.opening body
      (throughChar? delimiter.closing body)
    read.1.Shape read.2 := by
  cases hfound : throughChar? delimiter.closing body with
  | none => exact Or.inr ⟨Or.inl ⟨delimiter, body, rfl, not_mem_of_throughChar?_eq_none hfound⟩, rfl⟩
  | some found =>
    obtain ⟨inside, after⟩ := found
    obtain ⟨front, rfl, hfront⟩ := isDelimited_of_throughChar? hfound
    have hdelimited : IsDelimited delimiter.opening delimiter.closing
        (delimiter.opening ++ ([] ++ front ++ [delimiter.closing])) :=
      ⟨front, (List.append_assoc _ _ _).symm, hfront⟩
    cases delimiter <;> exact hdelimited

theorem shape_closed_remark {text : List Char} (hremark : startsRemark text = true) :
    let read := closed (.trivia .remComment) .remComment [] text (throughChar? ';' text)
    read.1.Shape read.2 := by
  have hopens := (startsRemark_iff text).1 hremark
  cases hfound : throughChar? ';' text with
  | none => exact Or.inr ⟨Or.inr (Or.inr ⟨hopens, not_mem_of_throughChar?_eq_none hfound⟩), rfl⟩
  | some found =>
    obtain ⟨inside, after⟩ := found
    have hclosed := isDelimited_of_throughChar? hfound
    have hmem : ';' ∈ inside := by
      obtain ⟨body, rfl, -⟩ := hclosed
      exact List.mem_append_right _ List.mem_cons_self
    rw [← append_of_throughChar? hfound] at hopens
    exact ⟨opensRemark_inside hopens hmem, hclosed⟩

theorem shape_mark {c : Char} {next : Option Char} {kind : TokenKind} (h : (Lead.mark kind).Announced c next)
    (after : List Char) : kind.Shape [c] after := by
  simp only [Lead.Announced, List.mem_cons, Prod.mk.injEq, List.not_mem_nil, or_false] at h
  rcases h with ⟨rfl, rfl⟩ | ⟨rfl, rfl⟩ | ⟨rfl, rfl⟩ | ⟨rfl, rfl⟩ | ⟨rfl, rfl⟩ <;> rfl

/-- A front piece looks as its kind does in front of the text that is left. -/
theorem shape_frontPiece (v : Vocabulary) (c : Char) (rest : List Char) :
    (frontPiece v c rest).1.Shape (frontPiece v c rest).2 := by
  have htext := text_append_frontPiece v c rest
  cases hgap : gapPiece? (c :: rest) with
  | some found =>
    obtain ⟨f, after⟩ := found
    rw [frontPiece_of_gapPiece? v hgap]
    exact shape_of_gapPiece? hgap
  | none =>
    obtain ⟨hspace, hline, hblock⟩ := Lead.of_gapPiece?_eq_none hgap
    have hannounced := Lead.announced_of c rest.head?
    cases hlead : Lead.of c rest.head? with
    | whitespace => exact absurd hlead hspace
    | lineComment => exact absurd hlead hline
    | blockComment =>
      have hnone := hblock hlead
      simp only [frontPiece, hlead, hnone, closed]
      exact Or.inr ⟨Or.inr (Or.inl ⟨rest.tail, rfl, not_isInfix_of_throughStarSlash?_eq_none hnone⟩), rfl⟩
    | literal delimiter =>
      simp only [frontPiece, hlead]
      exact delimiter.shape_closed _
    | number =>
      rw [hlead] at hannounced
      simp only [frontPiece, hlead, cut, Piece.text] at htext ⊢
      exact shape_frontNumber hannounced htext
    | comparison =>
      rw [hlead] at hannounced
      simp only [frontPiece, hlead, cut, Piece.text] at htext ⊢
      exact longestFront_comparison hannounced rfl htext
    | arithmetic =>
      rw [hlead] at hannounced
      simp only [frontPiece, hlead, cut, Piece.text] at htext ⊢
      refine ⟨⟨c, ?_, rfl⟩, ?_⟩
      · rw [Lead.Announced] at hannounced
        simpa [isArithmeticSign, or_assoc] using hannounced
      · rw [htext]
        exact not_comment_of_lead hlead
    | mark kind =>
      rw [hlead] at hannounced
      simp only [frontPiece, hlead, cut]
      exact shape_mark hannounced _
    | word =>
      rw [hlead] at hannounced
      have hword : frontWord (c :: rest) ≠ [] := by
        rw [frontWord, if_pos (Lead.isWordStart_of_of_eq_word hlead)]
        exact List.cons_ne_nil _ _
      by_cases hremark : startsRemark (c :: rest) = true
      · simp only [frontPiece, hlead, hremark, if_true]
        exact shape_closed_remark hremark
      · simp only [frontPiece, hlead, hremark, Piece.text] at htext ⊢
        exact v.shape_wordMatch hword (Bool.eq_false_iff.2 hremark) htext
    | unknown =>
      simp only [frontPiece, hlead, cut]
      exact Or.inl ⟨c, rfl, startsNothing_of_lead hlead⟩

end LoadScript
