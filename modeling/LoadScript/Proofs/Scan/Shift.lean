import LoadScript.Scan.Placed

set_option autoImplicit false
set_option relaxedAutoImplicit false

namespace LoadScript

open Text

/-- A range moved by some bytes. Whatever holds ranges is shifted by moving all of them. -/
def Span.shift (n : Nat) (s : Span) : Span :=
  ⟨n + s.start, n + s.stop⟩

def Trivia.shift (n : Nat) (t : Trivia) : Trivia :=
  { t with span := t.span.shift n }

def Token.shift (n : Nat) (t : Token) : Token :=
  { t with
    span := t.span.shift n
    leading := t.leading.map (Trivia.shift n)
    inner := t.inner.map (Trivia.shift n) }

def Problem.shift (n : Nat) : Problem → Problem
  | .unterminated form offset => .unterminated form (n + offset)
  | .unknownCharacter ch offset => .unknownCharacter ch (n + offset)
  | .unmatchedOpen offset => .unmatchedOpen (n + offset)
  | .unmatchedClose offset => .unmatchedClose (n + offset)
  | .nestedTooDeep offset limit => .nestedTooDeep (n + offset) limit

theorem Problem.offset_shift (n : Nat) (p : Problem) : (p.shift n).offset = n + p.offset := by
  cases p <;> rfl

def Problem.mapOffset (f : Nat → Nat) : Problem → Problem
  | .unterminated form offset => .unterminated form (f offset)
  | .unknownCharacter ch offset => .unknownCharacter ch (f offset)
  | .unmatchedOpen offset => .unmatchedOpen (f offset)
  | .unmatchedClose offset => .unmatchedClose (f offset)
  | .nestedTooDeep offset limit => .nestedTooDeep (f offset) limit

theorem Problem.offset_mapOffset (f : Nat → Nat) (p : Problem) : (p.mapOffset f).offset = f p.offset := by
  cases p <;> rfl

theorem Problem.mapOffset_id (p : Problem) : p.mapOffset id = p := by
  cases p <;> rfl

theorem Problem.mapOffset_mapOffset (f g : Nat → Nat) (p : Problem) :
    (p.mapOffset f).mapOffset g = p.mapOffset fun n => g (f n) := by
  cases p <;> rfl

theorem Problem.shift_eq_mapOffset (n : Nat) (p : Problem) : p.shift n = p.mapOffset (n + ·) := by
  cases p <;> rfl

theorem shift_spanFrom (n offset : Nat) (text : List Char) :
    (spanFrom offset text).shift n = spanFrom (n + offset) text := by
  rw [spanFrom, Span.shift, spanFrom, Nat.add_assoc]

theorem Trivia.shift_placed (n offset : Nat) (kind : TriviaKind) (text : List Char) :
    (placed offset kind text).shift n = placed (n + offset) kind text := by
  rw [placed, shift, shift_spanFrom, placed]

theorem map_shift_placeFiller (n offset : Nat) (filler : List Filler) :
    (placeFiller offset filler).map (Trivia.shift n) = placeFiller (n + offset) filler := by
  induction filler generalizing offset with
  | nil => rfl
  | cons f rest ih => rw [placeFiller, List.map_cons, ih, Trivia.shift_placed, placeFiller, Nat.add_assoc]

theorem map_shift_innerComments (n offset : Nat) (later : List LaterWord) :
    (innerComments offset later).map (Trivia.shift n) = innerComments (n + offset) later := by
  induction later generalizing offset with
  | nil => rfl
  | cons w rest ih =>
    have hfilter : ((placeFiller offset w.filler).filter Trivia.isComment).map (Trivia.shift n) =
        (placeFiller (n + offset) w.filler).filter Trivia.isComment := by
      rw [← map_shift_placeFiller, List.filter_map]
      rfl
    rw [innerComments, List.map_append, hfilter, ih, innerComments, Nat.add_assoc]

theorem WordMatch.shift_token (n offset : Nat) (leading : List Trivia) (m : WordMatch) :
    (m.token offset leading).shift n = m.token (n + offset) (leading.map (Trivia.shift n)) := by
  rw [token, Token.shift, shift_spanFrom, map_shift_innerComments, token, Nat.add_assoc]

namespace Scan

def shift (n : Nat) (s : Scan) : Scan :=
  ⟨s.tokens.map (Token.shift n), s.trailing.map (Trivia.shift n), s.problems.map (Problem.shift n)⟩

/-- A scan that goes on where another one, without trailing trivia, ends. -/
def append (s next : Scan) : Scan :=
  ⟨s.tokens ++ next.tokens, next.trailing, s.problems ++ next.problems⟩

theorem shift_consToken (n : Nat) (t : Token) (s : Scan) :
    (s.consToken t).shift n = (s.shift n).consToken (t.shift n) :=
  rfl

theorem shift_consProblem (n : Nat) (p : Problem) (s : Scan) :
    (s.consProblem p).shift n = (s.shift n).consProblem (p.shift n) :=
  rfl

theorem shift_ofPieces (n offset : Nat) (leading : List Trivia) (ps : List Piece) :
    (ofPieces offset leading ps).shift n =
      ofPieces (n + offset) (leading.map (Trivia.shift n)) ps := by
  induction ps generalizing offset leading with
  | nil => rfl
  | cons p rest ih =>
    cases p with
    | trivia kind text =>
      rw [ofPieces, ih, ofPieces, List.map_append, List.map_singleton, Trivia.shift_placed, Nat.add_assoc]
    | unknown ch =>
      rw [ofPieces, shift_consProblem, ih, ofPieces, List.map_append, List.map_singleton,
        Trivia.shift_placed, Problem.shift, Nat.add_assoc]
    | unterminated form text =>
      rw [ofPieces, shift_consProblem, ih, ofPieces, List.map_append, List.map_singleton,
        Trivia.shift_placed, Problem.shift, Nat.add_assoc]
    | token kind text =>
      rw [ofPieces, shift_consToken, ih, ofPieces, Token.shift, shift_spanFrom, Nat.add_assoc]
      rfl
    | words found =>
      rw [ofPieces, shift_consToken, ih, ofPieces, WordMatch.shift_token, Nat.add_assoc]
      rfl

theorem ofPieces_append (offset : Nat) (leading : List Trivia) (ps qs : List Piece) :
    ofPieces offset leading (ps ++ qs) = (ofPieces offset leading ps).append
      (ofPieces (offset + byteLength (ps.flatMap Piece.text)) (ofPieces offset leading ps).trailing qs) := by
  induction ps generalizing offset leading with
  | nil => rfl
  | cons p rest ih =>
    rw [List.flatMap_cons, byteLength_append, ← Nat.add_assoc, List.cons_append]
    cases p with
    | trivia kind text => exact ih _ _
    | unknown ch => exact congrArg (consProblem _) (ih _ _)
    | unterminated form text => exact congrArg (consProblem _) (ih _ _)
    | token kind text => exact congrArg (consToken _) (ih _ _)
    | words found => exact congrArg (consToken _) (ih _ _)

end Scan

end LoadScript
