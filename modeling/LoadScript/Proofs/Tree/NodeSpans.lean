import LoadScript.Proofs.NestingLimit

set_option autoImplicit false
set_option relaxedAutoImplicit false

namespace LoadScript

namespace Span

/-- Holds of the range from the first of some tokens to the last of them. -/
def Covers (s : Span) (ts : List Token) : Prop :=
  ∃ first last, ts.head? = some first ∧ ts.getLast? = some last ∧ s = ⟨first.span.start, last.span.stop⟩

/-- Holds of ranges inside a range, none of them empty and each behind the ones before it. -/
structure Nests (outer : Span) (inner : List Span) : Prop where
  within : ∀ s ∈ inner, s.Within outer
  start_lt_stop : ∀ s ∈ inner, s.start < s.stop
  stop_le_start : inner.Pairwise fun a b => a.stop ≤ b.start

end Span

theorem hull_covers {ts : List Token} (h : ts ≠ []) : (hull ts).Covers ts := by
  obtain ⟨first, hfirst⟩ := Option.ne_none_iff_exists'.1 (mt List.head?_eq_none_iff.1 h)
  obtain ⟨last, hlast⟩ := Option.ne_none_iff_exists'.1 (mt List.getLast?_eq_none_iff.1 h)
  exact ⟨first, last, hfirst, hlast, by rw [hull, hfirst, hlast]; rfl⟩

theorem sublist_flatMap_of_mem {α β : Type} {f : α → List β} {xs : List α} {x : α} (h : x ∈ xs) :
    (f x).Sublist (xs.flatMap f) := by
  rw [List.flatMap_def]
  exact List.sublist_flatten_of_mem (List.mem_map_of_mem h)

structure StrictlyOrdered (ts : List Token) : Prop extends Ordered ts where
  start_lt_stop : ∀ t ∈ ts, t.span.start < t.span.stop

namespace StrictlyOrdered

variable {ts front : List Token}

theorem sublist (h : StrictlyOrdered ts) (hfront : front.Sublist ts) : StrictlyOrdered front where
  toOrdered := h.toOrdered.sublist hfront
  start_lt_stop := fun t ht => h.start_lt_stop t (hfront.subset ht)

theorem hull_start_lt_stop (h : StrictlyOrdered ts) (hne : ts ≠ []) : (hull ts).start < (hull ts).stop := by
  obtain ⟨t, ht⟩ := List.exists_mem_of_ne_nil ts hne
  obtain ⟨hstart, -, hstop⟩ := h.within ht
  exact Nat.lt_of_le_of_lt hstart (Nat.lt_of_lt_of_le (h.start_lt_stop t ht) hstop)

theorem hull_within_of_forall {outer : Span} (h : StrictlyOrdered ts) (hne : ts ≠ [])
    (houter : ∀ t ∈ ts, t.span.Within outer) : (hull ts).Within outer := by
  have hlt := h.hull_start_lt_stop hne
  obtain ⟨first, last, hfirst, hlast, hhull⟩ := hull_covers hne
  rw [hhull] at hlt ⊢
  exact ⟨(houter first (List.mem_of_mem_head? hfirst)).1, Nat.le_of_lt hlt,
    (houter last (List.mem_of_mem_getLast? hlast)).2.2⟩

theorem nests {α : Type} {parts : List α} {tokens : α → List Token} {span : α → Span} {outer : Span}
    (h : StrictlyOrdered ts) (houter : ∀ t ∈ ts, t.span.Within outer)
    (hparts : (parts.flatMap tokens).Sublist ts) (hne : ∀ p ∈ parts, tokens p ≠ [])
    (hspan : ∀ p ∈ parts, span p = hull (tokens p)) : outer.Nests (parts.map span) := by
  have hpart : ∀ p ∈ parts, (tokens p).Sublist ts :=
    fun p hp => (sublist_flatMap_of_mem hp).trans hparts
  constructor
  · intro s hs
    obtain ⟨p, hp, rfl⟩ := List.mem_map.1 hs
    rw [hspan p hp]
    exact (h.sublist (hpart p hp)).hull_within_of_forall (hne p hp)
      fun t ht => houter t ((hpart p hp).subset ht)
  · intro s hs
    obtain ⟨p, hp, rfl⟩ := List.mem_map.1 hs
    rw [hspan p hp]
    exact (h.sublist (hpart p hp)).hull_start_lt_stop (hne p hp)
  · refine List.pairwise_map.2 ?_
    have hpairs := (List.pairwise_flatMap.1 (h.stop_le_start.sublist hparts)).2
    refine List.Pairwise.imp_of_mem (fun {a b} ha hb hab => ?_) hpairs
    obtain ⟨_, last, _, hlast, hfront⟩ := hull_covers (hne a ha)
    obtain ⟨first, _, hfirst, _, hback⟩ := hull_covers (hne b hb)
    rw [hspan a ha, hspan b hb, hfront, hback]
    exact hab last (List.mem_of_mem_getLast? hlast) first (List.mem_of_mem_head? hfirst)

end StrictlyOrdered

theorem within_of_mem_tokens_scan {v : Vocabulary} {source : List Char} {t : Token}
    (h : t ∈ (scan v source).tokens) :
    t.span.start < t.span.stop ∧ t.span.stop ≤ (String.ofList source).utf8ByteSize := by
  have hparts := (map_part_sublist_flatMap_parts (scan v source).tokens).trans
    (List.sublist_append_left _ ((scan v source).trailing.map Trivia.part))
  exact ((tiles_parts_scan v source).within (hparts.subset (List.mem_map_of_mem h))).2

theorem strictlyOrdered_tokens_scan (v : Vocabulary) (source : List Char) :
    StrictlyOrdered (scan v source).tokens where
  toOrdered := ordered_tokens_scan v source
  start_lt_stop := fun _ ht => (within_of_mem_tokens_scan ht).1

namespace Node

theorem listTokens_eq_flatMap (nodes : List Node) : listTokens nodes = nodes.flatMap tokens := by
  induction nodes with
  | nil => rw [listTokens, List.flatMap_nil]
  | cons node rest ih => rw [listTokens, ih, List.flatMap_cons]

theorem listTokens_sublist_bracket (name : Option Token) (opening : Token) (children : List Node)
    (closing : Option Token) : (listTokens children).Sublist (bracket name opening children closing).tokens := by
  rw [tokens]
  exact (List.sublist_append_right _ _).trans (List.sublist_append_left _ _)

mutual

/-- The nodes of a node at any depth from front to back, the node itself included. -/
def subtree : Node → List Node
  | .leaf token => [.leaf token]
  | .bracket name opening children closing => .bracket name opening children closing :: listSubtree children

def listSubtree : List Node → List Node
  | [] => []
  | node :: rest => node.subtree ++ listSubtree rest

end

mutual

theorem tokens_sublist_of_mem_subtree {inner : Node} (node : Node) (h : inner ∈ node.subtree) :
    inner.tokens.Sublist node.tokens := by
  cases node with
  | leaf t =>
    rw [subtree] at h
    obtain rfl := List.mem_singleton.1 h
    exact List.Sublist.refl _
  | bracket name opening children closing =>
    rw [subtree] at h
    rcases List.mem_cons.1 h with rfl | h
    · exact List.Sublist.refl _
    · exact (tokens_sublist_of_mem_listSubtree children h).trans
        (listTokens_sublist_bracket name opening children closing)

theorem tokens_sublist_of_mem_listSubtree {inner : Node} (nodes : List Node) (h : inner ∈ listSubtree nodes) :
    inner.tokens.Sublist (listTokens nodes) := by
  cases nodes with
  | nil =>
    rw [listSubtree] at h
    exact absurd h List.not_mem_nil
  | cons node rest =>
    rw [listSubtree] at h
    rw [listTokens]
    rcases List.mem_append.1 h with h | h
    · exact (tokens_sublist_of_mem_subtree node h).trans (List.sublist_append_left _ _)
    · exact (tokens_sublist_of_mem_listSubtree rest h).trans (List.sublist_append_right _ _)

end

theorem nests_map_span {ts : List Token} {nodes : List Node} (h : StrictlyOrdered ts)
    (hnodes : (listTokens nodes).Sublist ts) : (hull ts).Nests (nodes.map span) := by
  rw [listTokens_eq_flatMap] at hnodes
  refine h.nests (fun t => h.within) hnodes (fun node _ => node.tokens_ne_nil) fun node hnode => ?_
  exact span_eq_hull node (h.sublist ((sublist_flatMap_of_mem hnode).trans hnodes)).toOrdered

theorem covers_and_nests {node : Node} (h : StrictlyOrdered node.tokens) :
    node.span.Covers node.tokens ∧ node.span.Nests (node.children.map span) := by
  rw [span_eq_hull node h.toOrdered]
  refine ⟨hull_covers node.tokens_ne_nil, nests_map_span h ?_⟩
  cases node with
  | leaf t => exact List.nil_sublist _
  | bracket name opening children closing => exact listTokens_sublist_bracket name opening children closing

end Node

namespace Item

def children : Item → List Node
  | .statement s => s.children
  | .label _ _ => []

def nodes (item : Item) : List Node :=
  Node.listSubtree item.children

theorem listTokens_children_sublist (item : Item) : (Node.listTokens item.children).Sublist item.tokens := by
  cases item with
  | statement s => exact (List.sublist_append_right _ _).trans (List.sublist_append_left _ _)
  | label name colon => exact List.nil_sublist _

end Item

/-- The range of every item and of every node, at any depth, goes from its first token to its last; those side by
side lie one behind the other inside the one around them, and the items inside the source. -/
theorem node_spans_cover_tokens (v : Vocabulary) (limit : Nat) (source : List Char) :
    (⟨0, (String.ofList source).utf8ByteSize⟩ : Span).Nests
        ((readScript v limit source).document.items.map Item.span) ∧
      ∀ item ∈ (readScript v limit source).document.items,
        item.span.Covers item.tokens ∧ item.span.Nests (item.children.map Node.span) ∧
          ∀ node ∈ item.nodes, node.span.Covers node.tokens ∧ node.span.Nests (node.children.map Node.span) := by
  have hscan := strictlyOrdered_tokens_scan v source
  have htokens : ((readScript v limit source).document.items.flatMap Item.tokens).Sublist
      (scan v source).tokens :=
    tokens_assemble limit (scan v source).tokens ▸ List.Sublist.refl _
  have hne : ∀ item ∈ (readScript v limit source).document.items, item.tokens ≠ [] :=
    Progress.solid_run (p := .between) trivial (effectiveDepth limit) (scan v source).tokens
  have hitem : ∀ item ∈ (readScript v limit source).document.items, StrictlyOrdered item.tokens :=
    fun item h => hscan.sublist ((sublist_flatMap_of_mem h).trans htokens)
  refine ⟨hscan.nests ?_ htokens hne fun item h => ?_, fun item h => ⟨?_, ?_, ?_⟩⟩
  · intro t ht
    obtain ⟨hlt, hstop⟩ := within_of_mem_tokens_scan ht
    exact ⟨Nat.zero_le _, Nat.le_of_lt hlt, hstop⟩
  · exact Item.span_eq_hull (hitem item h).toOrdered
  · rw [Item.span_eq_hull (hitem item h).toOrdered]
    exact hull_covers (hne item h)
  · rw [Item.span_eq_hull (hitem item h).toOrdered]
    exact Node.nests_map_span (hitem item h) item.listTokens_children_sublist
  · intro node hnode
    have hnode := Node.tokens_sublist_of_mem_listSubtree item.children hnode
    exact Node.covers_and_nests ((hitem item h).sublist (hnode.trans item.listTokens_children_sublist))

end LoadScript
