import LoadScript.Document
import LoadScript.Json.Value
import LoadScript.Tree.Outline
import LoadScript.Vocabulary

/-!
The JSON forms of scans, trees, problems and keyword tables. A choice with data is an object with one member; one
without data is its name.
-/

set_option autoImplicit false
set_option relaxedAutoImplicit false

namespace LoadScript

open Json

def Tier.word : Tier → String
  | .control => "control"
  | .script => "script"
  | .logical => "logical"

def Role.word : Role → String
  | .leader => "leader"
  | .clause => "clause"
  | .headerEnd => "header_end"

def Span.toJson (s : Span) : Value :=
  .object [("start", .number s.start), ("end", .number s.stop)]

def TriviaKind.name : TriviaKind → String
  | .whitespace => "Whitespace"
  | .lineComment => "LineComment"
  | .blockComment => "BlockComment"
  | .remComment => "RemComment"
  | .skipped => "Skipped"

def Trivia.toJson (t : Trivia) : Value :=
  .object [("kind", .string t.kind.name), ("text", .string t.text), ("span", t.span.toJson)]

/-- A kind of token; a group of kinds is an object with the member of the group. -/
def TokenKind.toJson : TokenKind → Value
  | .identifier => .string "Identifier"
  | .keyword tier role => .object [("Keyword", .array [.string tier.word, .string role.word])]
  | .stringLiteral .single => .object [("StringLiteral", .string "Single")]
  | .stringLiteral .double => .object [("StringLiteral", .string "Double")]
  | .bracketField => .string "BracketField"
  | .number .integer => .object [("Number", .string "Integer")]
  | .number .float => .object [("Number", .string "Float")]
  | .expansion => .string "Macro"
  | .operator .comparison => .object [("Operator", .string "Comparison")]
  | .operator .arithmetic => .object [("Operator", .string "Arithmetic")]
  | .operator .logical => .object [("Operator", .string "Logical")]
  | .semicolon => .string "Semicolon"
  | .comma => .string "Comma"
  | .colon => .string "Colon"
  | .leftParen => .string "LParen"
  | .rightParen => .string "RParen"

def triviaMember (name : String) (trivia : List Trivia) : List (String × Value) :=
  if trivia.isEmpty then [] else [(name, .array (trivia.map Trivia.toJson))]

/-- A token; the lists of trivia and the canonical spelling are left out where there are none. -/
def Token.toJson (t : Token) : Value :=
  .object
    ([("kind", t.kind.toJson), ("text", .string t.text), ("span", t.span.toJson)]
      ++ triviaMember "leading" t.leading ++ triviaMember "inner" t.inner
      ++ t.canonical.toList.map fun canonical => ("canonical", .string canonical))

def optionalToken (t : Option Token) : Value :=
  match t with
  | some token => token.toJson
  | none => .null

namespace Node

mutual

def toJson : Node → Value
  | .leaf token => .object [((leaf token).name, token.toJson)]
  | .bracket none opening children closing =>
    .object [("Group", .object
      [("open", opening.toJson), ("children", .array (listToJson children)), ("close", optionalToken closing),
       ("span", (bracket none opening children closing).span.toJson)])]
  | .bracket (some name) opening children closing =>
    .object [("Call", .object
      [("name", name.toJson), ("open", opening.toJson), ("args", .array (listToJson children)),
       ("close", optionalToken closing), ("span", (bracket (some name) opening children closing).span.toJson)])]

def listToJson : List Node → List Value
  | [] => []
  | node :: rest => node.toJson :: listToJson rest

end

end Node

def Item.toJson (item : Item) : Value :=
  match item with
  | .statement s =>
    .object [("Statement", .object
      [("class", .string s.statementClass.name), ("keyword", optionalToken s.keyword),
       ("children", .array (Node.listToJson s.children)), ("terminator", optionalToken s.terminator),
       ("span", s.span.toJson)])]
  | .label name colon =>
    .object [("Label", .object
      [("name", name.toJson), ("colon", colon.toJson), ("span", item.span.toJson)])]

def Document.toJson (d : Document) : Value :=
  .object
    [("items", .array (d.items.map Item.toJson)), ("trailing", .array (d.trailing.map Trivia.toJson)),
     ("span", d.span.toJson)]

def LiteralForm.word : LiteralForm → String
  | .singleQuoted => "SingleQuotedString"
  | .doubleQuoted => "DoubleQuotedString"
  | .bracketField => "BracketField"
  | .blockComment => "BlockComment"
  | .remComment => "RemComment"
  | .expansion => "Macro"

/-- The members of a problem, what it is called first. -/
def Problem.members : Problem → List (String × Value)
  | .unterminated form offset =>
    [("error", .string "unterminated_literal"), ("literal", .string form.word), ("offset", .number offset)]
  | .unknownCharacter ch offset =>
    [("error", .string "unknown_character"), ("ch", .string ch.toString), ("offset", .number offset)]
  | .unmatchedOpen offset => [("error", .string "unmatched_open_paren"), ("offset", .number offset)]
  | .unmatchedClose offset => [("error", .string "unmatched_close_paren"), ("offset", .number offset)]
  | .nestedTooDeep offset limit =>
    [("error", .string "nesting_too_deep"), ("offset", .number offset), ("limit", .number limit)]

def Problem.toJson (p : Problem) : Value :=
  .object p.members

def Reading.toJson (r : Reading) : Value :=
  .object [("tree", r.document.toJson), ("errors", .array (r.problems.map Problem.toJson))]

/-- A keyword with all four members, also those that could be left out. -/
def Keyword.toJson (k : Keyword) : Value :=
  .object
    [("spelling", .string k.spelling), ("tier", .string k.tier.word), ("role", .string k.role.word),
     ("callable", .bool k.callable)]

def KeywordTable.toJson (table : KeywordTable) : Value :=
  .object [("version", .string table.version), ("keywords", .array (table.keywords.map Keyword.toJson))]

end LoadScript
