import LoadScript.Proofs.Tree.Conservation
import LoadScript.Tree.Outline

set_option autoImplicit false
set_option relaxedAutoImplicit false

namespace LoadScript

/-- What a token of a statement is in its tree. A node is named by the position of its opening parenthesis among
the tokens of the statement; the nodes around a token are listed from the inside out. -/
inductive TokenPlace where
  | keyword
  | terminator
  | leaf (variant : String) (around : List Nat)
  | callName (around : List Nat)
  | opening (isCall : Bool) (around : List Nat)
  | closing (node : Nat)
  deriving DecidableEq

namespace Node

mutual

/-- The tokens of a node with their places, the node itself starting at a position. -/
def places (position : Nat) (around : List Nat) : Node → List (Token × TokenPlace)
  | .leaf token => [(token, .leaf (leaf token).name around)]
  | .bracket name opening children closing =>
    let start := position + name.toList.length
    name.toList.map (fun t => (t, .callName around)) ++ [(opening, .opening name.isSome around)] ++
      listPlaces (start + 1) (start :: around) children ++
      closing.toList.map fun t => (t, .closing start)

def listPlaces (position : Nat) (around : List Nat) : List Node → List (Token × TokenPlace)
  | [] => []
  | node :: rest =>
    node.places position around ++ listPlaces (position + node.tokens.length) around rest

end

mutual

def depth : Node → Nat
  | .leaf _ => 0
  | .bracket _ _ children _ => listDepth children + 1

def listDepth : List Node → Nat
  | [] => 0
  | node :: rest => max node.depth (listDepth rest)

end

end Node

def Statement.places (s : Statement) : List (Token × TokenPlace) :=
  s.keyword.toList.map (fun t => (t, .keyword)) ++
    Node.listPlaces s.keyword.toList.length [] s.children ++
    s.terminator.toList.map fun t => (t, .terminator)

namespace Node

theorem listPlaces_append (position : Nat) (around : List Nat) (front back : List Node) :
    listPlaces position around (front ++ back) = listPlaces position around front ++
      listPlaces (position + (listTokens front).length) around back := by
  induction front generalizing position with
  | nil => rfl
  | cons node rest ih =>
    rw [List.cons_append, listPlaces, ih, listPlaces, listTokens, List.length_append,
      List.append_assoc, Nat.add_assoc]

theorem listPlaces_singleton (position : Nat) (around : List Nat) (node : Node) :
    listPlaces position around [node] = node.places position around := by
  rw [listPlaces, listPlaces, List.append_nil]

mutual

theorem map_fst_places (position : Nat) (around : List Nat) (node : Node) :
    (node.places position around).map Prod.fst = node.tokens := by
  cases node with
  | leaf t => rw [places, tokens_leaf, List.map_singleton]
  | bracket name opening children closing =>
    have hchildren := map_fst_listPlaces (position + name.toList.length + 1)
      ((position + name.toList.length) :: around) children
    cases name <;> cases closing <;> simp_all [places, tokens]

theorem map_fst_listPlaces (position : Nat) (around : List Nat) (nodes : List Node) :
    (listPlaces position around nodes).map Prod.fst = listTokens nodes := by
  cases nodes with
  | nil => rfl
  | cons node rest =>
    rw [listPlaces, List.map_append, map_fst_places position around node,
      map_fst_listPlaces _ around rest, listTokens]

end

theorem length_listPlaces (position : Nat) (around : List Nat) (nodes : List Node) :
    (listPlaces position around nodes).length = (listTokens nodes).length := by
  rw [← map_fst_listPlaces position around nodes, List.length_map]

end Node

namespace OpenBracket

/-- The position of an open parenthesis whose level starts at a position. -/
def start (here : Nat) (b : OpenBracket) : Nat :=
  here + (Node.listTokens b.before.reverse).length + b.name.toList.length

/-- The tokens up to the innermost of some open parentheses with their places, and the positions of these
parentheses. -/
def places (position : Nat) : List OpenBracket → List (Token × TokenPlace) × List Nat
  | [] => ([], [])
  | b :: outer =>
    let (read, around) := places position outer
    (read ++ Node.listPlaces (position + read.length) around b.before.reverse ++
        b.name.toList.map (fun t => (t, .callName around)) ++
        [(b.opening, .opening b.name.isSome around)],
      b.start (position + read.length) :: around)

theorem map_fst_places (position : Nat) (brackets : List OpenBracket) :
    (places position brackets).1.map Prod.fst = brackets.reverse.flatMap OpenBracket.tokens := by
  induction brackets with
  | nil => rfl
  | cons b outer ih =>
    simp [places, ih, Node.map_fst_listPlaces, OpenBracket.tokens, Function.comp_def]

theorem length_places (position : Nat) (brackets : List OpenBracket) :
    (places position brackets).1.length =
      (brackets.reverse.flatMap OpenBracket.tokens).length := by
  rw [← map_fst_places position brackets, List.length_map]

theorem length_positions (position : Nat) (brackets : List OpenBracket) :
    (places position brackets).2.length = brackets.length := by
  induction brackets with
  | nil => rfl
  | cons b outer ih => simp [places, ih]

theorem add_length_places_cons (position : Nat) (b : OpenBracket) (outer : List OpenBracket) :
    position + (places position (b :: outer)).1.length =
      b.start (position + (places position outer).1.length) + 1 := by
  simp only [places, start, List.length_append, List.length_map, List.length_singleton,
    Node.length_listPlaces]
  omega

theorem listPlaces_finish (here : Nat) (around : List Nat) (b : OpenBracket) (nodes : List Node)
    (closing : Option Token) :
    Node.listPlaces here around (b.finish nodes closing).reverse =
      Node.listPlaces here around b.before.reverse ++
        b.name.toList.map (fun t => (t, TokenPlace.callName around)) ++
        [(b.opening, TokenPlace.opening b.name.isSome around)] ++
        Node.listPlaces (b.start here + 1) (b.start here :: around) nodes.reverse ++
        closing.toList.map fun t => (t, TokenPlace.closing (b.start here)) := by
  rw [finish, List.reverse_cons, Node.listPlaces_append, Node.listPlaces_singleton, Node.places, start]
  simp only [List.append_assoc]

end OpenBracket

namespace Draft

def outerPlaces (d : Draft) : List (Token × TokenPlace) :=
  (OpenBracket.places d.keyword.toList.length d.brackets).1

/-- The positions of the nodes that are open, innermost first. -/
def around (d : Draft) : List Nat :=
  (OpenBracket.places d.keyword.toList.length d.brackets).2

/-- The position of the first of the nodes at the innermost open level. -/
def innerStart (d : Draft) : Nat :=
  d.keyword.toList.length + d.outerPlaces.length

def places (d : Draft) : List (Token × TokenPlace) :=
  d.keyword.toList.map (fun t => (t, .keyword)) ++ d.outerPlaces ++
    Node.listPlaces d.innerStart d.around d.nodes.reverse

theorem length_tokens (d : Draft) :
    d.tokens.length = d.innerStart + (Node.listTokens d.nodes.reverse).length := by
  simp only [tokens, innerStart, outerPlaces, OpenBracket.length_places, List.length_append]

theorem length_around (d : Draft) : d.around.length = d.brackets.length :=
  OpenBracket.length_positions _ _

theorem places_addLeaf (d : Draft) (t : Token) :
    (d.addLeaf t).places = d.places ++ [(t, TokenPlace.leaf t.kind.leafName d.around)] := by
  have hleaf : (d.addLeaf t).places = d.keyword.toList.map (fun t => (t, TokenPlace.keyword)) ++ d.outerPlaces ++
      Node.listPlaces d.innerStart d.around (d.nodes.reverse ++ [.leaf t]) := by
    rw [← List.reverse_cons]
    rfl
  rw [hleaf, Node.listPlaces_append, Node.listPlaces_singleton, Node.places, places,
    List.append_assoc, List.append_assoc, List.append_assoc]
  rfl

theorem push_of_name {d : Draft} {name : Token} {before : List Node}
    (hnodes : d.nodes = .leaf name :: before) (hname : name.kind = .identifier) (t : Token) :
    d.push t = { d with brackets := ⟨some name, t, before⟩ :: d.brackets, nodes := [] } := by
  simp only [push, opened, hnodes]
  rw [if_pos hname]

theorem push_of_not_name {d : Draft}
    (h : ∀ name before, d.nodes = .leaf name :: before → name.kind ≠ .identifier) (t : Token) :
    d.push t = { d with brackets := ⟨none, t, d.nodes⟩ :: d.brackets, nodes := [] } := by
  unfold push opened
  split
  · next name before hnodes =>
    rw [if_neg (h name before hnodes)]
  · rfl

theorem around_push (d : Draft) (t : Token) : (d.push t).around = d.tokens.length :: d.around := by
  rw [length_tokens]
  by_cases h : ∃ name before, d.nodes = .leaf name :: before ∧ name.kind = .identifier
  · obtain ⟨name, before, hnodes, hname⟩ := h
    rw [push_of_name hnodes hname, hnodes]
    simp [around, OpenBracket.places, OpenBracket.start, innerStart, outerPlaces, Nat.add_assoc]
  · rw [push_of_not_name fun name before hnodes hname => h ⟨name, before, hnodes, hname⟩]
    simp [around, OpenBracket.places, OpenBracket.start, innerStart, outerPlaces]

theorem places_push_of_name {d : Draft} {name : Token} {before : List Node}
    (hnodes : d.nodes = .leaf name :: before) (hname : name.kind = .identifier) (t : Token) :
    ∃ read, d.places = read ++ [(name, TokenPlace.leaf "Identifier" d.around)] ∧
      (d.push t).places =
        read ++ [(name, TokenPlace.callName d.around), (t, TokenPlace.opening true d.around)] := by
  refine ⟨d.keyword.toList.map (fun t => (t, TokenPlace.keyword)) ++ d.outerPlaces ++
    Node.listPlaces d.innerStart d.around before.reverse, ?_, ?_⟩
  · rw [places, hnodes, List.reverse_cons, Node.listPlaces_append, Node.listPlaces_singleton,
      Node.places, Node.name, hname, ← List.append_assoc]
    rfl
  · rw [push_of_name hnodes hname]
    simp [places, outerPlaces, OpenBracket.places, Node.listPlaces, innerStart, around]

theorem places_push_of_not_name {d : Draft}
    (h : ∀ name before, d.nodes = .leaf name :: before → name.kind ≠ .identifier) (t : Token) :
    (d.push t).places = d.places ++ [(t, .opening false d.around)] := by
  rw [push_of_not_name h]
  simp [places, outerPlaces, OpenBracket.places, Node.listPlaces, innerStart, around]

theorem places_finish {d : Draft} {b : OpenBracket} {outer : List OpenBracket}
    (hbrackets : d.brackets = b :: outer) (closing : Option Token) :
    ∃ node, d.around = node :: { d with brackets := outer }.around ∧
      { d with brackets := outer, nodes := b.finish d.nodes closing }.places =
        d.places ++ closing.toList.map fun t => (t, TokenPlace.closing node) := by
  obtain ⟨keyword, brackets, nodes, excess⟩ := d
  obtain rfl : brackets = b :: outer := hbrackets
  have hstart := OpenBracket.add_length_places_cons keyword.toList.length b outer
  refine ⟨_, rfl, ?_⟩
  simp only [places, outerPlaces, innerStart, around, OpenBracket.listPlaces_finish, hstart]
  simp [OpenBracket.places]

theorem listPlaces_collapse (position : Nat) (nodes : List Node) (brackets : List OpenBracket) :
    Node.listPlaces position [] (collapse nodes brackets).reverse =
      (OpenBracket.places position brackets).1 ++
        Node.listPlaces (position + (OpenBracket.places position brackets).1.length)
          (OpenBracket.places position brackets).2 nodes.reverse := by
  induction brackets generalizing nodes with
  | nil => simp [collapse, OpenBracket.places]
  | cons b outer ih =>
    rw [collapse, ih, OpenBracket.listPlaces_finish, OpenBracket.add_length_places_cons]
    simp [OpenBracket.places]

end Draft

/-- Holds of places at which nodes open only under fewer others than the limit. -/
def OpensBelow (limit : Nat) (places : List (Token × TokenPlace)) : Prop :=
  ∀ t isCall around, (t, TokenPlace.opening isCall around) ∈ places → around.length < limit

namespace Node

mutual

theorem depth_add_le {limit : Nat} (position : Nat) {around : List Nat}
    (haround : around.length ≤ limit) (node : Node) (h : OpensBelow limit (node.places position around)) :
    node.depth + around.length ≤ limit := by
  cases node with
  | leaf t =>
    rw [depth]
    omega
  | bracket name opening children closing =>
    let start := position + name.toList.length
    have hlt : (start :: around).length ≤ limit := h opening name.isSome around (by simp [places])
    have hchildren : OpensBelow limit (listPlaces (start + 1) (start :: around) children) :=
      fun t isCall r hmem => h t isCall r (by simp [places, start, hmem])
    have hinside := listDepth_add_le (start + 1) hlt children hchildren
    rw [List.length_cons] at hinside
    rw [depth]
    omega

theorem listDepth_add_le {limit : Nat} (position : Nat) {around : List Nat}
    (haround : around.length ≤ limit) (nodes : List Node)
    (h : OpensBelow limit (listPlaces position around nodes)) :
    listDepth nodes + around.length ≤ limit := by
  cases nodes with
  | nil =>
    rw [listDepth]
    omega
  | cons node rest =>
    have hnode := depth_add_le position haround node
      fun t isCall r hmem => h t isCall r (by simp [listPlaces, hmem])
    have hrest := listDepth_add_le (position + node.tokens.length) haround rest
      fun t isCall r hmem => h t isCall r (by simp [listPlaces, hmem])
    rw [listDepth]
    omega

end

end Node

end LoadScript
