import LoadScript.Proofs.Scan.Tiling
import LoadScript.Proofs.SortedProblems
import LoadScript.Proofs.Tree.Relabelling

/-!
Numbered pieces. The order of the problems of a script is that of the pieces where they start, however long the
pieces are. So the problems are found, and sorted, in a scan of which the pieces only have numbers, and every number
is the offset of a piece.
-/

set_option autoImplicit false
set_option relaxedAutoImplicit false

namespace LoadScript

open Text

def Token.bare (kind : TokenKind) (start : Nat) : Token :=
  ⟨kind, "", ⟨start, start⟩, [], [], none⟩

def Relabelling.bare (pos : Nat → Nat) : Relabelling where
  token := fun t => .bare t.kind (pos t.span.start)
  offset := pos
  kind_token := fun _ => rfl
  start_token := fun _ => rfl

/-- The offset of the piece with a number; behind the last piece each number is one byte more. -/
def starts : List Piece → Nat → Nat
  | _, 0 => 0
  | [], n + 1 => n + 1
  | p :: rest, n + 1 => byteLength p.text + starts rest n

theorem starts_nil (n : Nat) : starts [] n = n := by
  cases n <;> rfl

theorem starts_lt_starts {ps : List Piece} (hne : ∀ p ∈ ps, p.text ≠ []) {m n : Nat} (h : m < n) :
    starts ps m < starts ps n := by
  induction ps generalizing m n with
  | nil => rwa [starts_nil, starts_nil]
  | cons p rest ih =>
    obtain ⟨hp, hrest⟩ := List.forall_mem_cons.1 hne
    obtain ⟨n, rfl⟩ := Nat.exists_eq_succ_of_ne_zero (Nat.ne_zero_of_lt h)
    have hpos := byteLength_pos hp
    cases m with
    | zero =>
      rw [starts, starts]
      omega
    | succ m =>
      have hlt := ih hrest (Nat.lt_of_succ_lt_succ h)
      rw [starts, starts]
      omega

theorem starts_le_starts_iff {ps : List Piece} (hne : ∀ p ∈ ps, p.text ≠ []) (m n : Nat) :
    starts ps m ≤ starts ps n ↔ m ≤ n := by
  constructor
  · intro h
    refine Nat.le_of_not_lt fun hlt => ?_
    exact Nat.not_lt_of_le h (starts_lt_starts hne hlt)
  · intro h
    rcases Nat.lt_or_eq_of_le h with hlt | rfl
    · exact Nat.le_of_lt (starts_lt_starts hne hlt)
    · exact Nat.le_refl _

namespace Scan

/-- The scan of pieces of which only the kinds and the numbers are known. -/
def numbered (number : Nat) : List Piece → Scan
  | [] => ⟨[], [], []⟩
  | .trivia _ _ :: rest => numbered (number + 1) rest
  | .unknown ch :: rest => (numbered (number + 1) rest).consProblem (.unknownCharacter ch number)
  | .unterminated form _ :: rest => (numbered (number + 1) rest).consProblem (.unterminated form number)
  | .token kind _ :: rest => (numbered (number + 1) rest).consToken (.bare kind number)
  | .words found :: rest => (numbered (number + 1) rest).consToken (.bare found.kind number)

/-- What the problems of a script are made of: bare tokens and problems, with their starts moved. -/
def bare (pos : Nat → Nat) (s : Scan) : Scan :=
  ⟨s.tokens.map (Relabelling.bare pos).token, [], s.problems.map (Problem.mapOffset pos)⟩

theorem bare_consToken (pos : Nat → Nat) (t : Token) (s : Scan) :
    (s.consToken t).bare pos = (s.bare pos).consToken (.bare t.kind (pos t.span.start)) :=
  rfl

theorem bare_consProblem (pos : Nat → Nat) (p : Problem) (s : Scan) :
    (s.consProblem p).bare pos = (s.bare pos).consProblem (p.mapOffset pos) :=
  rfl

theorem bare_ofPieces {ps : List Piece} {number offset : Nat} {pos : Nat → Nat}
    (hpos : ∀ i, pos (number + i) = offset + starts ps i) (leading : List Trivia) :
    (ofPieces offset leading ps).bare id = (numbered number ps).bare pos := by
  induction ps generalizing number offset leading with
  | nil => rfl
  | cons p rest ih =>
    have hstart : pos number = offset := hpos 0
    have hnext : ∀ i, pos (number + 1 + i) = offset + byteLength p.text + starts rest i := by
      intro i
      have hi := hpos (i + 1)
      rw [starts] at hi
      rw [Nat.add_assoc, Nat.add_comm 1 i, hi, Nat.add_assoc]
    cases p with
    | trivia kind text => exact ih hnext _
    | unknown ch =>
      rw [ofPieces, bare_consProblem, ih hnext, numbered, bare_consProblem, Problem.mapOffset, Problem.mapOffset,
        hstart, id]
    | unterminated form text =>
      rw [ofPieces, bare_consProblem, ih hnext, numbered, bare_consProblem, Problem.mapOffset, Problem.mapOffset,
        hstart, id]
    | token kind text =>
      rw [ofPieces, bare_consToken, ih hnext, numbered, bare_consToken]
      exact congrArg (fun start => consToken (.bare kind start) _) hstart.symm
    | words found =>
      rw [ofPieces, bare_consToken, ih hnext, numbered, bare_consToken]
      exact congrArg (fun start => consToken (.bare found.kind start) _) hstart.symm

def allProblems (limit : Nat) (s : Scan) : List Problem :=
  s.problems ++ (assemble limit s.tokens).problems

theorem allProblems_bare (limit : Nat) (pos : Nat → Nat) (s : Scan) :
    (s.bare pos).allProblems limit = (s.allProblems limit).map (Problem.mapOffset pos) := by
  rw [allProblems, bare, assemble_relabel, Assembly.relabel, allProblems, List.map_append]
  rfl

theorem allProblems_ofPieces (limit : Nat) (leading : List Trivia) (ps : List Piece) :
    (ofPieces 0 leading ps).allProblems limit =
      ((numbered 0 ps).allProblems limit).map (Problem.mapOffset (starts ps)) := by
  have hpos : ∀ i, starts ps (0 + i) = 0 + starts ps i := by simp
  rw [← allProblems_bare, ← bare_ofPieces hpos leading, allProblems_bare]
  have hid : Problem.mapOffset id = id := funext Problem.mapOffset_id
  rw [hid, List.map_id]

end Scan

/-- The sorted problems of pieces are the sorted problems of their numbers. -/
theorem sortProblems_ofPieces {ps : List Piece} (hne : ∀ p ∈ ps, p.text ≠ []) (limit : Nat)
    (leading : List Trivia) :
    sortProblems ((Scan.ofPieces 0 leading ps).allProblems limit) =
      (sortProblems ((Scan.numbered 0 ps).allProblems limit)).map (Problem.mapOffset (starts ps)) := by
  rw [Scan.allProblems_ofPieces, sortProblems_map_mapOffset (starts_le_starts_iff hne)]

end LoadScript
