import LoadScript.Scan.Placed
import LoadScript.Tree.Assembly

set_option autoImplicit false
set_option relaxedAutoImplicit false

namespace LoadScript

open Text

structure Document where
  items : List Item
  /-- The trivia behind the last token. -/
  trailing : List Trivia
  span : Span

namespace Document

def statements (d : Document) : List Statement :=
  d.items.filterMap fun
    | .statement s => some s
    | .label _ _ => none

def labelNames (d : Document) : List Token :=
  d.items.filterMap fun
    | .statement _ => none
    | .label name _ => some name

def tokens (d : Document) : List Token :=
  d.items.flatMap Item.tokens

def comments (d : Document) : List Trivia :=
  d.tokens.flatMap Token.comments ++ d.trailing.filter Trivia.isComment

def source (d : Document) : String :=
  String.join (d.tokens.map Token.source) ++ String.join (d.trailing.map Trivia.text)

end Document

/-- A tree with the problems met while reading it, in the order of their offsets. -/
structure Reading where
  document : Document
  problems : List Problem

def defaultDepth : Nat := 128

/-- Problems in the order of their offsets; problems at one offset keep their order. -/
def sortProblems (problems : List Problem) : List Problem :=
  problems.mergeSort fun a b => a.offset ≤ b.offset

def readScript (v : Vocabulary) (limit : Nat) (source : List Char) : Reading :=
  let scanned := scan v source
  let assembled := assemble limit scanned.tokens
  { document := ⟨assembled.items, scanned.trailing, spanFrom 0 source⟩
    problems := sortProblems (scanned.problems ++ assembled.problems) }

def Reading.isClean (r : Reading) : Bool :=
  r.problems.isEmpty

end LoadScript
