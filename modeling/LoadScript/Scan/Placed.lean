import LoadScript.Scan.Piece

set_option autoImplicit false
set_option relaxedAutoImplicit false

namespace LoadScript

open Text

def spanFrom (offset : Nat) (text : List Char) : Span :=
  ⟨offset, offset + byteLength text⟩

def Trivia.placed (offset : Nat) (kind : TriviaKind) (text : List Char) : Trivia :=
  ⟨kind, String.ofList text, spanFrom offset text⟩

def placeFiller (offset : Nat) : List Filler → List Trivia
  | [] => []
  | f :: rest => Trivia.placed offset f.kind f.text :: placeFiller (offset + byteLength f.text) rest

def Piece.gapTrivia? (offset : Nat) : Piece → Option Trivia
  | .trivia kind text => if kind ∈ gapKinds then some (Trivia.placed offset kind text) else none
  | .unknown _ | .unterminated _ _ | .token _ _ | .words _ => none

/-- The comments between the words of a keyword, given where its first word ends. -/
def innerComments (offset : Nat) : List LaterWord → List Trivia
  | [] => []
  | w :: rest =>
    (placeFiller offset w.filler).filter Trivia.isComment
      ++ innerComments (offset + byteLength w.text) rest

def WordMatch.token (offset : Nat) (leading : List Trivia) (m : WordMatch) : Token where
  kind := m.kind
  text := String.ofList m.text
  span := spanFrom offset m.text
  leading := leading
  inner := innerComments (offset + byteLength m.first) m.later
  canonical := m.canonical

structure Scan where
  tokens : List Token
  trailing : List Trivia
  problems : List Problem

namespace Scan

def consToken (t : Token) (s : Scan) : Scan :=
  { s with tokens := t :: s.tokens }

def consProblem (p : Problem) (s : Scan) : Scan :=
  { s with problems := p :: s.problems }

/-- The scan of pieces that start at an offset, behind trivia that no token has taken yet. -/
def ofPieces (offset : Nat) (leading : List Trivia) : List Piece → Scan
  | [] => ⟨[], leading, []⟩
  | p :: rest =>
    let next := offset + byteLength p.text
    match p with
    | .trivia kind text => ofPieces next (leading ++ [Trivia.placed offset kind text]) rest
    | .unknown ch =>
      (ofPieces next (leading ++ [Trivia.placed offset .skipped [ch]]) rest).consProblem
        (.unknownCharacter ch offset)
    | .unterminated form text =>
      (ofPieces next (leading ++ [Trivia.placed offset .skipped text]) rest).consProblem
        (.unterminated form offset)
    | .token kind text =>
      (ofPieces next [] rest).consToken
        ⟨kind, String.ofList text, spanFrom offset text, leading, [], none⟩
    | .words found => (ofPieces next [] rest).consToken (found.token offset leading)

def source (s : Scan) : String :=
  String.join (s.tokens.map Token.source) ++ String.join (s.trailing.map Trivia.text)

end Scan

/-- A reader of a script: the text still to be scanned and its offset. -/
structure Scanner where
  offset : Nat
  rest : List Char

namespace Scanner

def start (source : List Char) : Scanner :=
  ⟨0, source⟩

def run (v : Vocabulary) (s : Scanner) : Scan × Scanner :=
  (Scan.ofPieces s.offset [] (pieces v s.rest), ⟨s.offset + byteLength s.rest, []⟩)

def step? (v : Vocabulary) (s : Scanner) : Option (Piece × Scanner) :=
  match s.rest with
  | [] => none
  | c :: rest =>
    some ((frontPiece v c rest).1,
      ⟨s.offset + byteLength (frontPiece v c rest).1.text, (frontPiece v c rest).2⟩)

theorem step?_cons (v : Vocabulary) (offset : Nat) (c : Char) (rest : List Char) :
    step? v ⟨offset, c :: rest⟩ = some ((frontPiece v c rest).1,
      ⟨offset + byteLength (frontPiece v c rest).1.text, (frontPiece v c rest).2⟩) :=
  rfl

/-- One step of a scanner, if it reads white space or a complete line or block comment. -/
def stepOver? (v : Vocabulary) (s : Scanner) : Option (Trivia × Scanner) :=
  match s.step? v with
  | none => none
  | some (p, next) => (p.gapTrivia? s.offset).map fun t => (t, next)

/-- One round of the loop that passes over a gap. -/
def gapRound? (s : Scanner) : Option (Trivia × Scanner) :=
  (gapPiece? s.rest).map fun (f, after) =>
    (Trivia.placed s.offset f.kind f.text, ⟨s.offset + byteLength f.text, after⟩)

end Scanner

def scan (v : Vocabulary) (source : List Char) : Scan :=
  ((Scanner.start source).run v).1

/-- The token that the words at a byte offset make up, if the offset falls between two characters. -/
def tokenAt? (v : Vocabulary) (source : List Char) (offset : Nat) : Option Token :=
  (dropBytes? offset source).map fun rest => (v.wordMatch rest).token offset []

/-- Where the gap at a byte offset ends and the comments in it, if the offset falls between two characters. -/
def skipGap? (source : List Char) (offset : Nat) : Option (Nat × List Trivia) :=
  (dropBytes? offset source).map fun rest =>
    (offset + byteLength ((gap rest).1.flatMap Filler.text),
      (placeFiller offset (gap rest).1).filter Trivia.isComment)

end LoadScript
