import LoadScript.Json.Encoding
import LoadScript.Problem
import LoadScript.Scan.Placed

set_option autoImplicit false
set_option relaxedAutoImplicit false

namespace LoadScript

open Text

def Tier.name : Tier → String
  | .control => "Control"
  | .script => "Script"
  | .logical => "Logical"

def Role.name : Role → String
  | .leader => "Leader"
  | .clause => "Clause"
  | .headerEnd => "HeaderEnd"

def TokenKind.label : TokenKind → String
  | .identifier => "Identifier"
  | .keyword tier role => "Keyword(" ++ tier.name ++ ", " ++ role.name ++ ")"
  | .stringLiteral .single => "StringLiteral(Single)"
  | .stringLiteral .double => "StringLiteral(Double)"
  | .bracketField => "BracketField"
  | .number .integer => "Number(Integer)"
  | .number .float => "Number(Float)"
  | .expansion => "Macro"
  | .operator .comparison => "Operator(Comparison)"
  | .operator .arithmetic => "Operator(Arithmetic)"
  | .operator .logical => "Operator(Logical)"
  | .semicolon => "Semicolon"
  | .comma => "Comma"
  | .colon => "Colon"
  | .leftParen => "LParen"
  | .rightParen => "RParen"

/-- The line of a text at a place in a source. -/
def listingLine (source : List Char) (span : Span) (label text : String) : String :=
  (Position.ofOffset source span.start).text ++ " " ++ label ++ " " ++ quote text

def Trivia.listing (source : List Char) (t : Trivia) : String :=
  listingLine source t.span t.kind.name t.text

/-- The lines of a token with the comments that it carries. -/
def Token.listing (source : List Char) (t : Token) : List String :=
  let canonical := match t.canonical with
    | some canonical => " (" ++ canonical ++ ")"
    | none => ""
  t.comments.map (Trivia.listing source) ++ [listingLine source t.span t.kind.label t.text ++ canonical]

def Scan.listing (source : List Char) (s : Scan) : List String :=
  s.tokens.flatMap (Token.listing source)

end LoadScript
