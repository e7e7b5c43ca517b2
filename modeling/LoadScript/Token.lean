import LoadScript.Span

/-!
Tokens of a load script and the trivia around them. A token keeps the text it was read from together with the
white space, comments and unreadable text in front of it, so a list of tokens still holds its whole source.
-/

set_option autoImplicit false
set_option relaxedAutoImplicit false

namespace LoadScript

/-- Text that carries no syntax. -/
inductive TriviaKind where
  | whitespace
  | lineComment
  | blockComment
  /-- From the word `REM` through the next semicolon. -/
  | remComment
  /-- Text that no rule reads. -/
  | skipped
  deriving DecidableEq

structure Trivia where
  kind : TriviaKind
  text : String
  span : Span
  deriving DecidableEq

/-- The group that a keyword belongs to, which decides what kind of statement it can lead. -/
inductive Tier where
  | control
  | script
  | logical
  deriving DecidableEq

/-- The place that a keyword may take in a statement. -/
inductive Role where
  | leader
  | clause
  | headerEnd
  deriving DecidableEq

inductive QuoteMark where
  | single
  | double
  deriving DecidableEq

inductive NumberForm where
  | integer
  | float
  deriving DecidableEq

inductive OperatorKind where
  | comparison
  | arithmetic
  | logical
  deriving DecidableEq

inductive TokenKind where
  | identifier
  | keyword (tier : Tier) (role : Role)
  | stringLiteral (mark : QuoteMark)
  | bracketField
  | number (form : NumberForm)
  | expansion
  | operator (kind : OperatorKind)
  | semicolon
  | comma
  | colon
  | leftParen
  | rightParen
  deriving DecidableEq

structure Token where
  kind : TokenKind
  text : String
  span : Span
  leading : List Trivia
  /-- The comments between the words of a keyword of several words; they are part of `text`. -/
  inner : List Trivia
  /-- The spelling of a keyword or word operator in its vocabulary. -/
  canonical : Option String
  deriving DecidableEq

def TriviaKind.isComment : TriviaKind → Bool
  | .lineComment | .blockComment | .remComment => true
  | .whitespace | .skipped => false

def Trivia.isComment (t : Trivia) : Bool :=
  t.kind.isComment

/-- Holds of the kinds that stand for a value or a field by themselves. -/
def TokenKind.isLiteral : TokenKind → Bool
  | .stringLiteral _ | .bracketField | .number _ | .expansion => true
  | _ => false

/-- Holds of the kinds that can name a table in front of a colon. -/
def TokenKind.isName : TokenKind → Bool
  | .identifier | .bracketField => true
  | _ => false

namespace Token

def role? (t : Token) : Option Role :=
  match t.kind with
  | .keyword _ role => some role
  | _ => none

/-- The comments in front of a token and inside it, in source order. -/
def comments (t : Token) : List Trivia :=
  (t.leading ++ t.inner).filter Trivia.isComment

def source (t : Token) : String :=
  String.join (t.leading.map Trivia.text) ++ t.text

end Token

end LoadScript
