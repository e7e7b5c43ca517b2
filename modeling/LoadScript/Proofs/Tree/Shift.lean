import LoadScript.Proofs.Scan.Shift
import LoadScript.Proofs.Tree.Relabelling

set_option autoImplicit false
set_option relaxedAutoImplicit false

namespace LoadScript

theorem Span.shift_join (n : Nat) (a b : Span) : (a.join b).shift n = (a.shift n).join (b.shift n) := by
  simp only [join, shift, Nat.add_min_add_left, Nat.add_max_add_left]

theorem movesSpans_shift (n : Nat) : MovesSpans (Token.shift n) (Span.shift n) where
  span_token := fun _ => rfl
  span_join := Span.shift_join n

def Relabelling.shift (n : Nat) : Relabelling where
  token := Token.shift n
  offset := fun offset => n + offset
  kind_token := fun _ => rfl
  start_token := fun _ => rfl

namespace Node

mutual

def shift (n : Nat) : Node → Node
  | .leaf token => .leaf (token.shift n)
  | .bracket name opening children closing =>
    .bracket (name.map (Token.shift n)) (opening.shift n) (listShift n children)
      (closing.map (Token.shift n))

def listShift (n : Nat) : List Node → List Node
  | [] => []
  | node :: rest => node.shift n :: listShift n rest

end

mutual

theorem shift_eq_map (n : Nat) (node : Node) : node.shift n = node.map (Token.shift n) := by
  cases node with
  | leaf token => rfl
  | bracket name opening children closing => rw [shift, map, listShift_eq_listMap n children]

theorem listShift_eq_listMap (n : Nat) (nodes : List Node) :
    listShift n nodes = listMap (Token.shift n) nodes := by
  cases nodes with
  | nil => rfl
  | cons node rest => rw [listShift, listMap, shift_eq_map n node, listShift_eq_listMap n rest]

end

end Node

def Statement.shift (n : Nat) (s : Statement) : Statement :=
  ⟨s.keyword.map (Token.shift n), s.children.map (Node.shift n), s.terminator.map (Token.shift n)⟩

def Item.shift (n : Nat) : Item → Item
  | .statement s => .statement (s.shift n)
  | .label name colon => .label (name.shift n) (colon.shift n)

theorem Item.shift_eq_map (n : Nat) (item : Item) : item.shift n = item.map (Token.shift n) := by
  cases item with
  | label name colon => rfl
  | statement s =>
    have hnode : Node.shift n = Node.map (Token.shift n) := funext (Node.shift_eq_map n)
    rw [shift, Statement.shift, hnode, map, Statement.map]

theorem Item.span_shift (n : Nat) {item : Item} (h : item.tokens ≠ []) :
    (item.shift n).span = item.span.shift n := by
  rw [shift_eq_map, span_map (movesSpans_shift n) h]

theorem Item.ranges_shift (n : Nat) (item : Item) :
    (item.shift n).ranges = item.ranges.map fun r => (r.1, r.2.shift n) := by
  rw [shift_eq_map, ranges_map (movesSpans_shift n)]

def Assembly.shift (n : Nat) (a : Assembly) : Assembly :=
  ⟨a.items.map (Item.shift n), a.problems.map (Problem.shift n)⟩

theorem assemble_map_shift (n limit : Nat) (tokens : List Token) :
    assemble limit (tokens.map (Token.shift n)) = (assemble limit tokens).shift n := by
  have hitem : Item.shift n = Item.map (Token.shift n) := funext (Item.shift_eq_map n)
  have hproblem : Problem.shift n = Problem.mapOffset (n + ·) := funext (Problem.shift_eq_mapOffset n)
  rw [Assembly.shift, hitem, hproblem]
  exact assemble_relabel (.shift n) limit tokens

end LoadScript
