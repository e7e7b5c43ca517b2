import LoadScript.Problem
import LoadScript.Tree

/-!
Assembly of a token list into items, one token at a time with one token of look-ahead. A statement in progress
keeps its open parentheses on a stack. Statements end at a semicolon; a control statement also ends, outside
all parentheses, in front of a leading keyword or a label, and behind the keyword that ends its header.
Parentheses nested beyond the limit stay flat: they are counted but open no node.
-/

set_option autoImplicit false
set_option relaxedAutoImplicit false

namespace LoadScript

/-- The greatest nesting limit, whatever limit is asked for. -/
def depthCeiling : Nat := 256

def effectiveDepth (limit : Nat) : Nat :=
  min limit depthCeiling

/-- A parenthesis that is open, with the name in front of it, if any, and the nodes before that, latest first. -/
structure OpenBracket where
  name : Option Token
  opening : Token
  before : List Node

def OpenBracket.finish (b : OpenBracket) (inside : List Node) (closing : Option Token) : List Node :=
  .bracket b.name b.opening inside.reverse closing :: b.before

structure Draft where
  keyword : Option Token
  /-- The open parentheses, innermost first. -/
  brackets : List OpenBracket
  /-- The nodes at the innermost open level, latest first. -/
  nodes : List Node
  /-- The parentheses open beyond the limit, innermost first. -/
  excess : List Token

namespace Draft

def start (keyword : Option Token) : Draft :=
  ⟨keyword, [], [], []⟩

def isOutermost (d : Draft) : Bool :=
  d.brackets.isEmpty && d.excess.isEmpty

def statementClass (d : Draft) : StatementClass :=
  match d.keyword with
  | some token => token.kind.statementClass
  | none => .expression

def addLeaf (d : Draft) (t : Token) : Draft :=
  { d with nodes := .leaf t :: d.nodes }

/-- The parenthesis that a token opens behind some nodes, latest first; an identifier directly in front becomes the
name of a call. -/
def opened (nodes : List Node) (t : Token) : OpenBracket :=
  match nodes with
  | .leaf name :: before => if name.kind = .identifier then ⟨some name, t, before⟩ else ⟨none, t, nodes⟩
  | _ => ⟨none, t, nodes⟩

@[simp]
theorem opening_opened (nodes : List Node) (t : Token) : (opened nodes t).opening = t := by
  unfold opened
  split
  · split <;> rfl
  · rfl

def push (d : Draft) (t : Token) : Draft :=
  { d with brackets := opened d.nodes t :: d.brackets, nodes := [] }

@[simp]
theorem keyword_push (d : Draft) (t : Token) : (d.push t).keyword = d.keyword :=
  rfl

@[simp]
theorem brackets_push (d : Draft) (t : Token) : (d.push t).brackets = opened d.nodes t :: d.brackets :=
  rfl

@[simp]
theorem excess_push (d : Draft) (t : Token) : (d.push t).excess = d.excess :=
  rfl

def addOpening (limit : Nat) (d : Draft) (t : Token) : List Problem × Draft :=
  if !d.excess.isEmpty then ([], { d.addLeaf t with excess := t :: d.excess })
  else if d.brackets.length < limit then ([], d.push t)
  else ([.nestedTooDeep t.span.start limit], { d.addLeaf t with excess := [t] })

def addClosing (d : Draft) (t : Token) : List Problem × Draft :=
  match d.excess, d.brackets with
  | _ :: outer, _ => ([], { d.addLeaf t with excess := outer })
  | [], b :: outer => ([], { d with brackets := outer, nodes := b.finish d.nodes (some t) })
  | [], [] => ([.unmatchedClose t.span.start], d.addLeaf t)

def add (limit : Nat) (d : Draft) (t : Token) : List Problem × Draft :=
  match t.kind with
  | .leftParen => d.addOpening limit t
  | .rightParen => d.addClosing t
  | _ => ([], d.addLeaf t)

/-- Ends all open parentheses at once, without closing them. -/
def collapse (nodes : List Node) : List OpenBracket → List Node
  | [] => nodes
  | b :: outer => collapse (b.finish nodes none) outer

def finish (d : Draft) (terminator : Option Token) : Item :=
  .statement ⟨d.keyword, (collapse d.nodes d.brackets).reverse, terminator⟩

/-- The problems of ending the statement here: its open parentheses, innermost first. Of those beyond the limit
only the outermost counts. -/
def unclosed (d : Draft) : List Problem :=
  (d.excess.getLast?.toList ++ d.brackets.map OpenBracket.opening).map fun t => .unmatchedOpen t.span.start

/-- Holds if the statement ends in front of a token, given the token after it. -/
def endsBefore (d : Draft) (t : Token) (next : Option Token) : Bool :=
  d.isOutermost && d.statementClass == .control &&
    (t.role? == some .leader || (t.kind.isName && next.any fun n => n.kind == .colon))

def isHeaderEnd (d : Draft) (t : Token) : Bool :=
  d.isOutermost && d.statementClass == .control && t.role? == some .headerEnd

end Draft

inductive Progress where
  | between
  /-- Behind a name that a colon follows. -/
  | labelled (name : Token)
  | inside (draft : Draft)
  /-- Behind a complete header; only a semicolon still belongs to the statement. -/
  | headed (draft : Draft)

structure Assembly where
  items : List Item
  problems : List Problem

namespace Assembly

def empty : Assembly :=
  ⟨[], []⟩

def append (a b : Assembly) : Assembly :=
  ⟨a.items ++ b.items, a.problems ++ b.problems⟩

def ofDraft (d : Draft) (terminator : Option Token) : Assembly :=
  ⟨[d.finish terminator], d.unclosed⟩

end Assembly

namespace Progress

/-- Reads a token at the start of an item, given the token after it. -/
def enter (limit : Nat) (t : Token) (next : Option Token) : Assembly × Progress :=
  if t.kind.isName ∧ (next.any fun n => n.kind == .colon) then (.empty, .labelled t)
  else if t.kind = .semicolon then (.ofDraft (.start none) (some t), .between)
  else if t.kind.statementClass = .expression then
    let (problems, draft) := (Draft.start none).add limit t
    (⟨[], problems⟩, .inside draft)
  else if t.role? = some .headerEnd then (.empty, .headed (.start (some t)))
  else (.empty, .inside (.start (some t)))

def step (limit : Nat) (p : Progress) (t : Token) (next : Option Token) : Assembly × Progress :=
  match p with
  | .between => enter limit t next
  | .labelled name => (⟨[.label name t], []⟩, .between)
  | .inside d =>
    if t.kind = .semicolon then (.ofDraft d (some t), .between)
    else if d.endsBefore t next then
      let (produced, progress) := enter limit t next
      ((Assembly.ofDraft d none).append produced, progress)
    else
      let (problems, draft) := d.add limit t
      (⟨[], problems⟩, if d.isHeaderEnd t then .headed draft else .inside draft)
  | .headed d =>
    if t.kind = .semicolon then (.ofDraft d (some t), .between)
    else
      let (produced, progress) := enter limit t next
      ((Assembly.ofDraft d none).append produced, progress)

def finish : Progress → Assembly
  | .between => .empty
  | .labelled name => .ofDraft ((Draft.start none).addLeaf name) none
  | .inside d => .ofDraft d none
  | .headed d => .ofDraft d none

def run (limit : Nat) (p : Progress) : List Token → Assembly
  | [] => p.finish
  | t :: rest =>
    let (produced, progress) := p.step limit t rest.head?
    produced.append (progress.run limit rest)

end Progress

/-- The items of a token list, and the problems with its parentheses in the order they are met. -/
def assemble (limit : Nat) (tokens : List Token) : Assembly :=
  Progress.between.run (effectiveDepth limit) tokens

end LoadScript
