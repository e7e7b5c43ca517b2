import LoadScript.Proofs.Scan.Layout
import LoadScript.Proofs.VocabularyExtension

/-!
Gaps between words, read two ways. The look-ahead for further words of a keyword passes over a gap by a loop of its
own; the scanner reads the same text piece by piece. Round for round and step for step both pass over the same trivia,
and both stop in front of the same text.
-/

set_option autoImplicit false
set_option relaxedAutoImplicit false

namespace LoadScript

open Text Unicode

/-- Holds of what ends a gap: a token, a remark, a character that no rule reads, or what is open to the end. -/
def Piece.EndsGap : Piece → Prop
  | .trivia kind _ => kind = .remComment
  | .unknown _ | .unterminated _ _ | .token _ _ | .words _ => True

namespace Scanner

def IsAt (source : List Char) (s : Scanner) : Prop :=
  dropBytes? s.offset source = some s.rest

/-- The steps of a scanner over trivia, one after the other, until there is none. -/
inductive PassesOver (step : Scanner → Option (Trivia × Scanner)) : Scanner → List Trivia → Scanner → Prop
  | halt {s : Scanner} : step s = none → PassesOver step s [] s
  | pass {s next stop : Scanner} {t : Trivia} {trivia : List Trivia} :
    step s = some (t, next) → PassesOver step next trivia stop → PassesOver step s (t :: trivia) stop

end Scanner

theorem Vocabulary.next_of_lookAhead {v : Vocabulary} {count : Nat} {seen : List (List Char)} {text : List Char}
    {w : LaterWord} {later : List LaterWord} (h : v.lookAhead count seen text = w :: later) (offset : Nat) :
    w.word = frontWord (gap text).2 ∧
      innerComments offset (w :: later) = (placeFiller offset (gap text).1).filter Trivia.isComment ++
        innerComments (offset + byteLength ((gap text).1.flatMap Filler.text) + byteLength w.word) later := by
  have hprefix : w :: later <+: laterWords text := by
    rw [← h]
    exact v.lookAhead_isPrefix count seen text
  obtain ⟨-, rfl, -⟩ := cons_isPrefix_laterWords hprefix
  refine ⟨rfl, ?_⟩
  rw [innerComments, LaterWord.byteLength_text, Nat.add_assoc]

theorem endsGap_frontPiece (v : Vocabulary) {c : Char} {rest : List Char}
    (h : gapPiece? (c :: rest) = none) : (frontPiece v c rest).1.EndsGap := by
  obtain ⟨hspace, hline, hblock⟩ := Lead.of_gapPiece?_eq_none h
  cases hlead : Lead.of c rest.head? with
  | whitespace => exact absurd hlead hspace
  | lineComment => exact absurd hlead hline
  | blockComment =>
    simp only [frontPiece, hlead, hblock hlead]
    trivial
  | literal delimiter =>
    simp only [frontPiece, hlead]
    cases throughChar? delimiter.closing ((c :: rest).drop delimiter.opening.length) <;> trivial
  | word =>
    by_cases hremark : startsRemark (c :: rest) = true
    · simp only [frontPiece, hlead, hremark, if_true]
      cases throughChar? ';' (c :: rest) with
      | none => trivial
      | some found => rfl
    · simp only [frontPiece, hlead, hremark]
      trivial
  | _ =>
    simp only [frontPiece, hlead]
    trivial

theorem Piece.EndsGap.gapTrivia?_eq_none {p : Piece} (h : p.EndsGap) (offset : Nat) :
    p.gapTrivia? offset = none := by
  cases p with
  | trivia kind text =>
    have hkind : kind = .remComment := h
    rw [gapTrivia?, hkind, if_neg (by decide)]
  | _ => rfl

theorem Filler.gapTrivia?_piece {text after : List Char} {f : Filler} (h : gapPiece? text = some (f, after))
    (offset : Nat) : f.piece.gapTrivia? offset = some (Trivia.placed offset f.kind f.text) := by
  rw [piece, Piece.gapTrivia?, if_pos (kind_of_gapPiece? h)]

namespace Scanner

variable {v : Vocabulary} {s next stop last : Scanner} {p : Piece} {t : Trivia} {trivia passed : List Trivia}

theorem of_step? (h : s.step? v = some (p, next)) :
    pieces v s.rest = p :: pieces v next.rest ∧ s.rest = p.text ++ next.rest ∧
      next.offset = s.offset + byteLength p.text := by
  obtain ⟨offset, text⟩ := s
  cases text with
  | nil => exact absurd h.symm (Option.some_ne_none _)
  | cons c rest =>
    rw [step?_cons] at h
    obtain ⟨rfl, rfl⟩ := Prod.mk.inj (Option.some.inj h)
    refine ⟨?_, (text_append_frontPiece v c rest).symm, rfl⟩
    show pieces v (c :: rest) = _
    rw [pieces]

theorem stepOver?_eq_some (h : s.stepOver? v = some (t, next)) :
    ∃ kind text, s.step? v = some (.trivia kind text, next) ∧ t = Trivia.placed s.offset kind text := by
  rw [stepOver?] at h
  split at h
  · exact absurd h.symm (Option.some_ne_none _)
  · next p after hstep =>
    obtain ⟨u, hu, hsame⟩ := Option.map_eq_some_iff.1 h
    obtain ⟨rfl, rfl⟩ := Prod.mk.inj hsame
    cases p with
    | trivia kind text =>
      obtain ⟨-, hplaced⟩ := Option.ite_none_right_eq_some.1 hu
      obtain rfl := Option.some.inj hplaced
      exact ⟨kind, text, hstep, rfl⟩
    | _ => exact absurd hu.symm (Option.some_ne_none _)

/-- A round of the loop is a step of the scanner, under every vocabulary. -/
theorem gapRound?_eq_stepOver? (v : Vocabulary) (s : Scanner) : s.gapRound? = s.stepOver? v := by
  obtain ⟨offset, text⟩ := s
  cases text with
  | nil => rfl
  | cons c rest =>
    -- what the loop does not pass over is no gap to the scanner either, and a filler is the same piece to both
    cases hgap : gapPiece? (c :: rest) with
    | none =>
      have hends := (endsGap_frontPiece v hgap).gapTrivia?_eq_none offset
      simp only [gapRound?, stepOver?, step?_cons, hgap, hends, Option.map_none]
    | some found =>
      obtain ⟨f, after⟩ := found
      have hpiece := f.gapTrivia?_piece hgap offset
      simp only [gapRound?, stepOver?, step?_cons, hgap, frontPiece_of_gapPiece? v hgap, hpiece, Option.map_some]
      rfl

namespace PassesOver

variable {step : Scanner → Option (Trivia × Scanner)}

theorem unique (h : PassesOver step s trivia stop) (h' : PassesOver step s passed last) :
    passed = trivia ∧ last = stop := by
  induction h generalizing passed last with
  | halt hnone =>
    cases h' with
    | halt _ => exact ⟨rfl, rfl⟩
    | pass hsome _ => exact absurd (hnone.symm.trans hsome).symm (Option.some_ne_none _)
  | pass hsome _ ih =>
    cases h' with
    | halt hnone => exact absurd (hnone.symm.trans hsome).symm (Option.some_ne_none _)
    | pass hsome' hrest' =>
      obtain ⟨rfl, rfl⟩ := Prod.mk.inj (Option.some.inj (hsome.symm.trans hsome'))
      obtain ⟨rfl, rfl⟩ := ih hrest'
      exact ⟨rfl, rfl⟩

theorem iff_eq (h : PassesOver step s trivia stop) (passed : List Trivia) (last : Scanner) :
    PassesOver step s passed last ↔ passed = trivia ∧ last = stop := by
  constructor
  · exact h.unique
  · rintro ⟨rfl, rfl⟩
    exact h

theorem step_eq_none (h : PassesOver step s trivia stop) : step stop = none := by
  induction h with
  | halt hnone => exact hnone
  | pass _ _ ih => exact ih

theorem ofPieces_eq (h : PassesOver (stepOver? v) s trivia stop) (leading : List Trivia) :
    Scan.ofPieces s.offset leading (pieces v s.rest) =
      Scan.ofPieces stop.offset (leading ++ trivia) (pieces v stop.rest) := by
  induction h generalizing leading with
  | halt _ => rw [List.append_nil]
  | pass hsome _ ih =>
    obtain ⟨kind, text, hstep, rfl⟩ := stepOver?_eq_some hsome
    obtain ⟨hpieces, -, hoffset⟩ := of_step? hstep
    rw [hpieces, List.append_cons, ← ih, hoffset]
    rfl

theorem isAt {source : List Char} (h : PassesOver (stepOver? v) s trivia stop) (hs : s.IsAt source) :
    stop.IsAt source := by
  induction h with
  | halt _ => exact hs
  | pass hsome _ ih =>
    apply ih
    obtain ⟨kind, text, hstep, -⟩ := stepOver?_eq_some hsome
    obtain ⟨-, hrest, hoffset⟩ := of_step? hstep
    obtain ⟨before, rfl, hbefore⟩ := exists_of_dropBytes? hs
    rw [IsAt, hoffset, ← hbefore, ← byteLength_append, hrest, ← List.append_assoc]
    exact dropBytes?_append _ _

end PassesOver

theorem passesOver_gap (offset : Nat) (text : List Char) :
    PassesOver gapRound? ⟨offset, text⟩ (placeFiller offset (gap text).1)
      ⟨offset + byteLength ((gap text).1.flatMap Filler.text), (gap text).2⟩ := by
  fun_induction gap text generalizing offset with
  | case1 text hnone =>
    apply PassesOver.halt
    rw [gapRound?, hnone, Option.map_none]
  | case2 text f after hsome ih =>
    have hround : gapRound? ⟨offset, text⟩ =
        some (Trivia.placed offset f.kind f.text, ⟨offset + byteLength f.text, after⟩) := by
      rw [gapRound?, hsome, Option.map_some]
    rw [List.flatMap_cons, byteLength_append, ← Nat.add_assoc]
    exact .pass hround (ih (offset + byteLength f.text))

theorem endsGap_of_gapRound?_eq_none (h : s.gapRound? = none) (hstep : s.step? v = some (p, next)) :
    p.EndsGap := by
  obtain ⟨offset, text⟩ := s
  cases text with
  | nil => exact absurd hstep.symm (Option.some_ne_none _)
  | cons c rest =>
    rw [step?_cons] at hstep
    obtain ⟨rfl, -⟩ := Prod.mk.inj (Option.some.inj hstep)
    exact endsGap_frontPiece v (Option.map_eq_none_iff.1 h)

end Scanner

open Scanner

/-- Holds of trivia and the place behind it if the rounds of the loop and the steps of a scanner both come to an end
there and have passed over just this trivia, and if the scan then goes on from there with the trivia pushed. -/
structure SamePassage (v : Vocabulary) (source : List Char) (s : Scanner) (trivia : List Trivia) (stop : Scanner) :
    Prop where
  rounds_iff : ∀ passed last, PassesOver gapRound? s passed last ↔ passed = trivia ∧ last = stop
  steps_iff : ∀ passed last, PassesOver (stepOver? v) s passed last ↔ passed = trivia ∧ last = stop
  isAt : stop.IsAt source
  endsGap : ∀ p next, stop.step? v = some (p, next) → p.EndsGap
  ofPieces_eq : ∀ leading, Scan.ofPieces s.offset leading (pieces v s.rest) =
    Scan.ofPieces stop.offset (leading ++ trivia) (pieces v stop.rest)

/-- Skipping the gap at an offset stops where the scanner has read white space and complete line and block comments as
long as there are any, and gives back the comments among them. The look-ahead goes on with the word that stands
there. -/
theorem skipGap?_follows_scanner (v : Vocabulary) {source rest : List Char} {offset : Nat}
    (hat : dropBytes? offset source = some rest) :
    ∃ trivia stop, SamePassage v source ⟨offset, rest⟩ trivia stop ∧
      skipGap? source offset = some (stop.offset, trivia.filter Trivia.isComment) ∧
      ∀ count seen w later, v.lookAhead count seen rest = w :: later →
        w.word = frontWord stop.rest ∧
          innerComments offset (w :: later) =
            trivia.filter Trivia.isComment ++ innerComments (stop.offset + byteLength w.word) later := by
  have hrounds := passesOver_gap offset rest
  have hsteps := hrounds
  rw [funext (gapRound?_eq_stepOver? v)] at hsteps
  refine ⟨_, _, ⟨hrounds.iff_eq, hsteps.iff_eq, hsteps.isAt hat, ?_, hsteps.ofPieces_eq⟩, ?_, ?_⟩
  · intro p next hstep
    exact endsGap_of_gapRound?_eq_none hrounds.step_eq_none hstep
  · rw [skipGap?, hat, Option.map_some]
  · intro count seen w later hahead
    exact Vocabulary.next_of_lookAhead hahead offset

/-- A keyword of two words with a wide blank, a comment that starts like a whole one, and a line between them; behind it
stands a comment that stays open. -/
theorem comments_before_join_skipped :
    let v := Vocabulary.ofTable leftJoinTable
    let source := "Left\u00a0/*/ all */// join\nJOIN /* x".toList
    let rest := "\u00a0/*/ all */// join\nJOIN /* x".toList
    let comments : List Trivia := [⟨.blockComment, "/*/ all */", ⟨6, 16⟩⟩, ⟨.lineComment, "// join", ⟨16, 23⟩⟩]
    dropBytes? 4 source = some rest ∧ skipGap? source 4 = some (24, comments) ∧ skipGap? source 28 = some (29, []) ∧
      (v.lookAhead 1 ["Left".toList] rest).map LaterWord.word = ["JOIN".toList] ∧
      ∃ trivia stop, SamePassage v source ⟨4, rest⟩ trivia stop ∧
        skipGap? source 4 = some (stop.offset, trivia.filter Trivia.isComment) ∧
        ∀ count seen w later, v.lookAhead count seen rest = w :: later →
          w.word = frontWord stop.rest ∧
            innerComments 4 (w :: later) =
              trivia.filter Trivia.isComment ++ innerComments (stop.offset + byteLength w.word) later := by
  intro v source rest comments
  have hat : dropBytes? 4 source = some rest := by decide +kernel
  have hskip : skipGap? source 4 = some (24, comments) := by decide +kernel
  have hopen : skipGap? source 28 = some (29, []) := by decide +kernel
  have hahead : (v.lookAhead 1 ["Left".toList] rest).map LaterWord.word = ["JOIN".toList] := by decide +kernel
  exact ⟨hat, hskip, hopen, hahead, skipGap?_follows_scanner v hat⟩

end LoadScript
