import LoadScript.Document

set_option autoImplicit false
set_option relaxedAutoImplicit false

namespace LoadScript

open Text

def TokenKind.leafName : TokenKind → String
  | .identifier => "Identifier"
  | .keyword _ _ => "Keyword"
  | .operator _ => "Operator"
  | kind => if kind.isLiteral then "Literal" else "Punctuation"

def Node.name : Node → String
  | .leaf token => token.kind.leafName
  | .bracket none _ _ _ => "Group"
  | .bracket (some _) _ _ _ => "Call"

def StatementClass.name : StatementClass → String
  | .control => "Control"
  | .script => "Script"
  | .expression => "Expression"

def Node.line (node : Node) : String :=
  match node with
  | .leaf token => node.name ++ " " ++ quote token.text ++ " " ++ node.span.text
  | .bracket none _ _ _ => node.name ++ " " ++ node.span.text
  | .bracket (some name) _ _ _ => node.name ++ " " ++ quote name.text ++ " " ++ node.span.text

def indentation (level : Nat) : String :=
  String.ofList (List.replicate (2 * level) ' ')

namespace Node

mutual

def outline (level : Nat) : Node → List String
  | .leaf token => [indentation level ++ (leaf token).line]
  | .bracket name opening children closing =>
    (indentation level ++ (bracket name opening children closing).line)
      :: listOutline (level + 1) children

def listOutline (level : Nat) : List Node → List String
  | [] => []
  | node :: rest => outline level node ++ listOutline level rest

end

end Node

def Item.outline (item : Item) : List String :=
  match item with
  | .statement s =>
    (s.statementClass.name ++ " " ++ s.keywordName?.getD "-" ++ " " ++ s.span.text)
      :: Node.listOutline 1 s.children
  | .label name _ => ["Label " ++ quote name.text ++ " " ++ item.span.text]

def Document.outline (d : Document) : List String :=
  d.items.flatMap Item.outline

end LoadScript
