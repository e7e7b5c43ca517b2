import LoadScript.Proofs.Tree.NodeSpans
import LoadScript.Tree.Search

/-!
Search finds the innermost node. It takes the first part that holds an offset and never goes back. That is enough: of
parts side by side at most one holds the offset, and what holds it inside a part lies in a range that holds it as well.
-/

set_option autoImplicit false
set_option relaxedAutoImplicit false

namespace LoadScript

theorem Span.contains_iff {s : Span} {offset : Nat} :
    s.contains offset = true ↔ s.start ≤ offset ∧ offset < s.stop := by
  rw [contains, decide_eq_true_iff]

theorem Span.Within.contains {a b : Span} {offset : Nat} (h : a.Within b) (ha : a.contains offset = true) :
    b.contains offset = true := by
  obtain ⟨hstart, -, hstop⟩ := h
  rw [contains_iff] at ha ⊢
  omega

theorem Span.not_contains_of_stop_le {a b : Span} {offset : Nat} (h : a.stop ≤ b.start)
    (ha : a.contains offset = true) : b.contains offset = false := by
  rw [contains_iff] at ha
  rw [Bool.eq_false_iff, Ne, contains_iff]
  omega

theorem Span.Nests.not_contains_of_cons {outer first : Span} {rest : List Span} {offset : Nat}
    (h : outer.Nests (first :: rest)) (hfirst : first.contains offset = true) :
    ∀ s ∈ rest, s.contains offset = false := by
  intro s hs
  exact Span.not_contains_of_stop_le (List.rel_of_pairwise_cons h.stop_le_start hs) hfirst

theorem toList_or_of_eq_none {α : Type} {first second : Option α} (h : first ≠ none → second = none) :
    (first.or second).toList = first.toList ++ second.toList := by
  cases first with
  | none => rw [Option.none_or, Option.toList_none, List.nil_append]
  | some a => rw [h (Option.some_ne_none a), Option.or_none, Option.toList_none, List.append_nil]

namespace Node

def descendants (node : Node) : List Node :=
  listSubtree node.children

/-- Holds of a node at an offset if no node inside it is there as well. -/
structure IsInnermost (offset : Nat) (node : Node) : Prop where
  contains : node.span.contains offset = true
  not_contains : ∀ inner ∈ node.descendants, inner.span.contains offset = false

instance (offset : Nat) (node : Node) : Decidable (node.IsInnermost offset) :=
  decidable_of_iff (node.span.contains offset = true ∧ ∀ inner ∈ node.descendants, inner.span.contains offset = false)
    ⟨fun h => ⟨h.1, h.2⟩, fun h => ⟨h.contains, h.not_contains⟩⟩

theorem listSubtree_eq_flatMap (nodes : List Node) : listSubtree nodes = nodes.flatMap subtree := by
  induction nodes with
  | nil => rw [listSubtree, List.flatMap_nil]
  | cons node rest ih => rw [listSubtree, ih, List.flatMap_cons]

variable {offset : Nat}

theorem contains_of_mem_subtree {node inner : Node} (h : StrictlyOrdered node.tokens) (hinner : inner ∈ node.subtree)
    (hoffset : inner.span.contains offset = true) : node.span.contains offset = true := by
  have htokens := tokens_sublist_of_mem_subtree node hinner
  have hwithin := h.toOrdered.hull_within htokens inner.tokens_ne_nil
  rw [← span_eq_hull node h.toOrdered, ← span_eq_hull inner (h.sublist htokens).toOrdered] at hwithin
  exact hwithin.contains hoffset

theorem not_contains_of_mem_listSubtree {nodes : List Node} (h : StrictlyOrdered (listTokens nodes))
    (hnodes : ∀ node ∈ nodes, node.span.contains offset = false) :
    ∀ inner ∈ listSubtree nodes, inner.span.contains offset = false := by
  intro inner hinner
  rw [listSubtree_eq_flatMap] at hinner
  obtain ⟨node, hnode, hinner⟩ := List.mem_flatMap.1 hinner
  rw [listTokens_eq_flatMap] at h
  rw [Bool.eq_false_iff]
  intro hoffset
  have hcontains := contains_of_mem_subtree (h.sublist (sublist_flatMap_of_mem hnode)) hinner hoffset
  exact Bool.false_ne_true ((hnodes node hnode).symm.trans hcontains)

theorem filter_innermost_eq_nil {nodes : List Node} (h : ∀ node ∈ nodes, node.span.contains offset = false) :
    nodes.filter (fun node => node.IsInnermost offset) = [] := by
  rw [List.filter_eq_nil_iff]
  intro node hnode hinnermost
  exact Bool.false_ne_true ((h node hnode).symm.trans (of_decide_eq_true hinnermost).contains)

theorem find?_eq_none_iff (node : Node) : node.find? offset = none ↔ node.span.contains offset = false := by
  cases node with
  | leaf t =>
    rw [find?]
    split <;> simp_all
  | bracket name opening children closing =>
    rw [find?]
    split <;> simp_all

theorem findFirst?_eq_none_iff (nodes : List Node) :
    findFirst? offset nodes = none ↔ ∀ node ∈ nodes, node.span.contains offset = false := by
  induction nodes with
  | nil => simp [findFirst?]
  | cons node rest ih => rw [findFirst?, Option.or_eq_none_iff, find?_eq_none_iff, ih, List.forall_mem_cons]

mutual

/-- The innermost nodes of a tree at an offset are the one that the search finds. -/
theorem filter_subtree (node : Node) (h : StrictlyOrdered node.tokens) :
    node.subtree.filter (fun inner => inner.IsInnermost offset) = (node.find? offset).toList := by
  by_cases hoffset : node.span.contains offset = true
  · cases node with
    | leaf t =>
      have hinnermost : (leaf t).IsInnermost offset := by
        refine ⟨hoffset, fun inner hinner => ?_⟩
        rw [descendants, children, listSubtree] at hinner
        exact absurd hinner List.not_mem_nil
      rw [subtree, find?, if_pos hoffset, List.filter_cons_of_pos (by simpa using hinnermost)]
      rfl
    | bracket name opening children closing =>
      have hchildren := h.sublist (listTokens_sublist_bracket name opening children closing)
      have hinside := filter_listSubtree children hchildren
      rw [subtree, find?, if_pos hoffset]
      cases hfound : findFirst? offset children with
      | none =>
        have hinnermost : (bracket name opening children closing).IsInnermost offset :=
          ⟨hoffset, not_contains_of_mem_listSubtree hchildren ((findFirst?_eq_none_iff children).1 hfound)⟩
        rw [hfound] at hinside
        rw [List.filter_cons_of_pos (by simpa using hinnermost), hinside]
        rfl
      | some inner =>
        rw [hfound] at hinside
        -- the node found inside is there, so the bracket around it is not innermost
        have hinner : inner ∈ (listSubtree children).filter fun inner => inner.IsInnermost offset := by
          rw [hinside]
          exact List.mem_singleton_self inner
        obtain ⟨hmem, hinner⟩ := List.mem_filter.1 hinner
        have houter : ¬(bracket name opening children closing).IsInnermost offset := by
          intro houter
          have hnot := houter.not_contains inner hmem
          exact Bool.false_ne_true (hnot.symm.trans (of_decide_eq_true hinner).contains)
        rw [List.filter_cons_of_neg (by simpa using houter), hinside]
        rfl
  · have hnone := (find?_eq_none_iff node).2 (Bool.eq_false_iff.2 hoffset)
    rw [hnone]
    refine filter_innermost_eq_nil fun inner hinner => ?_
    exact Bool.eq_false_iff.2 fun hcontains => hoffset (contains_of_mem_subtree h hinner hcontains)

theorem filter_listSubtree (nodes : List Node) (h : StrictlyOrdered (listTokens nodes)) :
    (listSubtree nodes).filter (fun inner => inner.IsInnermost offset) = (findFirst? offset nodes).toList := by
  cases nodes with
  | nil => rw [listSubtree, findFirst?]; rfl
  | cons node rest =>
    have hspans := nests_map_span h (List.Sublist.refl _)
    rw [listTokens] at h
    rw [listSubtree, findFirst?, List.filter_append, filter_subtree node (h.sublist (List.sublist_append_left _ _)),
      filter_listSubtree rest (h.sublist (List.sublist_append_right _ _))]
    refine (toList_or_of_eq_none fun hfound => (findFirst?_eq_none_iff rest).2 fun other hother => ?_).symm
    have hoffset : node.span.contains offset = true := by
      rwa [← Bool.not_eq_false, ← find?_eq_none_iff]
    exact hspans.not_contains_of_cons hoffset other.span (List.mem_map_of_mem hother)

end

end Node

namespace Item

variable {offset : Nat}

def find? (offset : Nat) (item : Item) : Option Node :=
  if item.span.contains offset then Node.findFirst? offset item.children else none

theorem contains_of_find?_ne_none {item : Item} (h : item.find? offset ≠ none) : item.span.contains offset = true := by
  rw [find?] at h
  split at h
  · assumption
  · exact absurd rfl h

theorem not_contains_of_find?_eq_none {item : Item} (h : StrictlyOrdered item.tokens)
    (hnone : item.find? offset = none) : ∀ node ∈ item.nodes, node.span.contains offset = false := by
  refine Node.not_contains_of_mem_listSubtree (h.sublist item.listTokens_children_sublist) fun node hnode => ?_
  by_cases hoffset : item.span.contains offset = true
  · rw [find?, if_pos hoffset, Node.findFirst?_eq_none_iff] at hnone
    exact hnone node hnode
  · have hwithin := (Node.nests_map_span h item.listTokens_children_sublist).within node.span
      (List.mem_map_of_mem hnode)
    rw [← span_eq_hull h.toOrdered] at hwithin
    exact Bool.eq_false_iff.2 fun hcontains => hoffset (hwithin.contains hcontains)

theorem filter_nodes {item : Item} (h : StrictlyOrdered item.tokens) :
    item.nodes.filter (fun node => node.IsInnermost offset) = (item.find? offset).toList := by
  cases hfound : item.find? offset with
  | none => exact Node.filter_innermost_eq_nil (not_contains_of_find?_eq_none h hfound)
  | some node =>
    have hoffset := contains_of_find?_ne_none (hfound ▸ Option.some_ne_none node)
    rw [← hfound, find?, if_pos hoffset]
    exact Node.filter_listSubtree item.children (h.sublist item.listTokens_children_sublist)

theorem filter_flatMap_nodes {items : List Item} (h : StrictlyOrdered (items.flatMap tokens))
    (hne : ∀ item ∈ items, item.tokens ≠ []) :
    (items.flatMap nodes).filter (fun node => node.IsInnermost offset) =
      (items.findSome? (find? offset)).toList := by
  induction items with
  | nil => rfl
  | cons item rest ih =>
    have hitem : ∀ other ∈ item :: rest, StrictlyOrdered other.tokens :=
      fun other hother => h.sublist (sublist_flatMap_of_mem hother)
    have hspans : (hull ((item :: rest).flatMap tokens)).Nests ((item :: rest).map span) :=
      h.nests (fun t => h.within) (List.Sublist.refl _) hne
        fun other hother => span_eq_hull (hitem other hother).toOrdered
    have hrest := h.sublist (List.sublist_append_right item.tokens (rest.flatMap tokens))
    have hor : (item :: rest).findSome? (find? offset) = (item.find? offset).or (rest.findSome? (find? offset)) := by
      rw [List.findSome?_cons]
      cases item.find? offset <;> rfl
    rw [hor, List.flatMap_cons, List.filter_append, filter_nodes (hitem item List.mem_cons_self),
      ih hrest fun other hother => hne other (List.mem_cons_of_mem item hother)]
    refine (toList_or_of_eq_none fun hfound => List.findSome?_eq_none_iff.2 fun other hother => ?_).symm
    have hother := hspans.not_contains_of_cons (contains_of_find?_ne_none hfound) other.span
      (List.mem_map_of_mem hother)
    rw [find?, hother]
    rfl

end Item

namespace Document

def nodes (d : Document) : List Node :=
  d.items.flatMap Item.nodes

theorem nodeAt?_eq_findSome? (d : Document) (offset : Nat) :
    d.nodeAt? offset = d.items.findSome? (Item.find? offset) := by
  rw [nodeAt?, statements, ← List.head?_filterMap, List.filterMap_filter, List.filterMap_filterMap,
    List.head?_filterMap]
  congr 1
  funext item
  cases item with
  | statement s => rfl
  | label name colon => rw [Item.find?, Item.children, Node.findFirst?, ite_self]; rfl

end Document

/-- The node found at an offset is the one node of the tree that is there and has no node inside it that is there as
well; none is found only where no node is. -/
theorem nodeAt?_innermost (v : Vocabulary) (limit : Nat) (source : List Char) (offset : Nat) :
    let d := (readScript v limit source).document
    (d.nodeAt? offset = none ↔ ∀ node ∈ d.nodes, node.span.contains offset = false) ∧
      (∀ node, d.nodeAt? offset = some node ↔ node ∈ d.nodes ∧ node.IsInnermost offset) ∧
      d.nodes.filter (fun node => node.IsInnermost offset) = (d.nodeAt? offset).toList := by
  intro d
  have htokens : d.items.flatMap Item.tokens = (scan v source).tokens := tokens_assemble limit (scan v source).tokens
  have hordered : StrictlyOrdered (d.items.flatMap Item.tokens) := htokens ▸ strictlyOrdered_tokens_scan v source
  have hne : ∀ item ∈ d.items, item.tokens ≠ [] :=
    Progress.solid_run (p := .between) trivial (effectiveDepth limit) (scan v source).tokens
  have hfilter : d.nodes.filter (fun node => node.IsInnermost offset) = (d.nodeAt? offset).toList := by
    rw [d.nodeAt?_eq_findSome?]
    exact Item.filter_flatMap_nodes hordered hne
  have hsome : ∀ node, d.nodeAt? offset = some node ↔ node ∈ d.nodes ∧ node.IsInnermost offset := by
    intro node
    have hmem : node ∈ d.nodes.filter (fun node => node.IsInnermost offset) ↔ node ∈ (d.nodeAt? offset).toList := by
      rw [hfilter]
    rw [List.mem_filter, decide_eq_true_iff, Option.mem_toList] at hmem
    exact hmem.symm
  refine ⟨⟨fun hnone => ?_, fun hnodes => ?_⟩, hsome, hfilter⟩
  · rw [d.nodeAt?_eq_findSome?, List.findSome?_eq_none_iff] at hnone
    intro node hnode
    obtain ⟨item, hitem, hnode⟩ := List.mem_flatMap.1 hnode
    have hitemTokens := hordered.sublist (sublist_flatMap_of_mem hitem)
    exact Item.not_contains_of_find?_eq_none hitemTokens (hnone item hitem) node hnode
  · rw [Option.eq_none_iff_forall_ne_some]
    intro node hfound
    obtain ⟨hmem, hinnermost⟩ := (hsome node).1 hfound
    exact Bool.false_ne_true ((hnodes node hmem).symm.trans hinnermost.contains)

/-- Between the nodes inside a call that is never closed, the call is the innermost node; behind its last token there is
none. -/
example : ([0, 2, 4, 6, 7].map fun offset =>
    ((readScript (.ofTable ⟨"1", []⟩) 8 "f(a, (b\n".toList).document.nodeAt? offset).map Node.span) =
      [some ⟨0, 7⟩, some ⟨2, 3⟩, some ⟨0, 7⟩, some ⟨6, 7⟩, none] := by
  decide +kernel

end LoadScript
