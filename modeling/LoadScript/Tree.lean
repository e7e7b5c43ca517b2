import LoadScript.Token

/-!
The tree of a script. A script is a list of items: statements and table labels. Below a statement the tree is
flat, but for parentheses: names, literals, operators and marks stand side by side, and only a pair of
parentheses holds nodes of its own.
-/

set_option autoImplicit false
set_option relaxedAutoImplicit false

namespace LoadScript

inductive Node where
  | leaf (token : Token)
  /-- A pair of parentheses: a call if a name stands directly in front, else a group. The closing parenthesis
  is missing if the statement ends first. -/
  | bracket (name : Option Token) (opening : Token) (children : List Node) (closing : Option Token)

/-- A statement. Its keyword, if it has one, stands in front of its nodes, and its semicolon, if it has one,
behind them. -/
structure Statement where
  keyword : Option Token
  children : List Node
  terminator : Option Token

inductive Item where
  | statement (s : Statement)
  /-- A table name with its colon. -/
  | label (name colon : Token)

inductive StatementClass where
  | control
  | script
  | expression
  deriving DecidableEq

def TokenKind.statementClass : TokenKind → StatementClass
  | .keyword .control _ => .control
  | .keyword .script _ => .script
  | _ => .expression

namespace Node

def children : Node → List Node
  | .leaf _ => []
  | .bracket _ _ children _ => children

def token? : Node → Option Token
  | .leaf token => some token
  | .bracket _ _ _ _ => none

def firstToken : Node → Token
  | .leaf token => token
  | .bracket name opening _ _ => name.getD opening

mutual

def tokens : Node → List Token
  | .leaf token => [token]
  | .bracket name opening children closing =>
    name.toList ++ [opening] ++ listTokens children ++ closing.toList

def listTokens : List Node → List Token
  | [] => []
  | node :: rest => node.tokens ++ listTokens rest

end

mutual

/-- The range of a node: from its first token to its last child or its closing parenthesis. -/
def span : Node → Span
  | .leaf token => token.span
  | .bracket name opening children closing =>
    let first := (name.getD opening).span
    let last := match closing with
      | some token => token.span
      | none => (lastSpan? children).getD first
    (first.join last).join opening.span

def lastSpan? : List Node → Option Span
  | [] => none
  | node :: rest =>
    match lastSpan? rest with
    | some last => some last
    | none => some node.span

end

end Node

namespace Statement

def statementClass (s : Statement) : StatementClass :=
  match s.keyword with
  | some token => token.kind.statementClass
  | none => .expression

/-- The spelling of the leading keyword in its vocabulary. -/
def keywordName? (s : Statement) : Option String :=
  s.keyword.bind Token.canonical

/-- Holds of a statement that is only a semicolon. -/
def isEmpty (s : Statement) : Bool :=
  s.keyword.isNone && s.children.isEmpty

def tokens (s : Statement) : List Token :=
  s.keyword.toList ++ Node.listTokens s.children ++ s.terminator.toList

def firstToken? (s : Statement) : Option Token :=
  s.keyword.or ((s.children.head?.map Node.firstToken).or s.terminator)

/-- The range of a statement: from its first token to its semicolon or its last node. -/
def span (s : Statement) : Span :=
  let first := (s.firstToken?.map Token.span).getD ⟨0, 0⟩
  let last := match s.terminator with
    | some token => token.span
    | none => (Node.lastSpan? s.children).getD first
  first.join last

end Statement

namespace Item

def span : Item → Span
  | .statement s => s.span
  | .label name colon => name.span.join colon.span

def tokens : Item → List Token
  | .statement s => s.tokens
  | .label name colon => [name, colon]

end Item

end LoadScript
