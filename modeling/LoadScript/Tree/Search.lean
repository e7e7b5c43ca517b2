import LoadScript.Document

set_option autoImplicit false
set_option relaxedAutoImplicit false

namespace LoadScript

namespace Node

mutual

/-- The innermost node at an offset, the node itself included. -/
def find? (offset : Nat) : Node → Option Node
  | .leaf token => if (leaf token).span.contains offset then some (.leaf token) else none
  | .bracket name opening children closing =>
    if (bracket name opening children closing).span.contains offset then
      (findFirst? offset children).or (some (.bracket name opening children closing))
    else none

def findFirst? (offset : Nat) : List Node → Option Node
  | [] => none
  | node :: rest => (node.find? offset).or (findFirst? offset rest)

end

end Node

def Document.nodeAt? (d : Document) (offset : Nat) : Option Node :=
  (d.statements.filter fun s => s.span.contains offset).findSome? fun s =>
    Node.findFirst? offset s.children

end LoadScript
