import LoadScript.Proofs.Tree.Conservation

set_option autoImplicit false
set_option relaxedAutoImplicit false

namespace LoadScript

open Text

structure Ordered (ts : List Token) : Prop where
  start_le_stop : ∀ t ∈ ts, t.span.start ≤ t.span.stop
  stop_le_start : ts.Pairwise fun a b => a.span.stop ≤ b.span.start

def hull (ts : List Token) : Span :=
  ⟨(ts.head?.map fun t => t.span.start).getD 0, (ts.getLast?.map fun t => t.span.stop).getD 0⟩

def Span.Within (a b : Span) : Prop :=
  b.start ≤ a.start ∧ a.start ≤ a.stop ∧ a.stop ≤ b.stop

namespace Ordered

variable {ts front back : List Token}

theorem sublist (h : Ordered ts) (hfront : front.Sublist ts) : Ordered front where
  start_le_stop := fun t ht => h.start_le_stop t (hfront.subset ht)
  stop_le_start := h.stop_le_start.sublist hfront

theorem within (h : Ordered ts) {t : Token} (ht : t ∈ ts) : t.span.Within (hull ts) := by
  obtain ⟨hwithin, hpairs⟩ := h
  refine ⟨?_, hwithin t ht, ?_⟩
  · cases ts with
    | nil => exact absurd ht List.not_mem_nil
    | cons first rest =>
      rcases List.mem_cons.1 ht with rfl | hrest
      · exact Nat.le_refl _
      · exact Nat.le_trans (hwithin first List.mem_cons_self) (List.rel_of_pairwise_cons hpairs hrest)
  · rcases List.eq_nil_or_concat ts with rfl | ⟨before, last, rfl⟩
    · exact absurd ht List.not_mem_nil
    · rw [List.concat_eq_append] at hwithin hpairs ht ⊢
      have hstop : (hull (before ++ [last])).stop = last.span.stop := by simp [hull]
      rw [hstop]
      rcases List.mem_append.1 ht with hbefore | hlast
      · have hle := (List.pairwise_append.1 hpairs).2.2 t hbefore last List.mem_cons_self
        exact Nat.le_trans hle (hwithin last (List.mem_append_right _ List.mem_cons_self))
      · obtain rfl := List.mem_singleton.1 hlast
        exact Nat.le_refl _

theorem hull_within (h : Ordered ts) (hfront : front.Sublist ts) (hne : front ≠ []) :
    (hull front).Within (hull ts) := by
  obtain ⟨first, hfirst⟩ := Option.ne_none_iff_exists'.1 (mt List.head?_eq_none_iff.1 hne)
  obtain ⟨last, hlast⟩ := Option.ne_none_iff_exists'.1 (mt List.getLast?_eq_none_iff.1 hne)
  have hhull : hull front = ⟨first.span.start, last.span.stop⟩ := by rw [hull, hfirst, hlast]; rfl
  have hinside := (h.sublist hfront).within (List.mem_of_mem_head? hfirst)
  have hstart := h.within (hfront.subset (List.mem_of_mem_head? hfirst))
  have hstop := h.within (hfront.subset (List.mem_of_mem_getLast? hlast))
  rw [hhull] at hinside ⊢
  exact ⟨hstart.1, Nat.le_trans hinside.2.1 hinside.2.2, hstop.2.2⟩

end Ordered

theorem hull_append_stop (front : List Token) {back : List Token} (h : back ≠ []) :
    (hull (front ++ back)).stop = (hull back).stop := by
  obtain ⟨last, hlast⟩ := Option.ne_none_iff_exists'.1 (mt List.getLast?_eq_none_iff.1 h)
  rw [hull, hull, List.getLast?_append, hlast, Option.some_or]

theorem hull_start {ts : List Token} {t : Token} (h : ts.head? = some t) :
    (hull ts).start = t.span.start := by
  rw [hull, h]
  rfl

theorem Span.join_eq {first last whole : Span} (hfirst : first.Within whole) (hlast : last.Within whole)
    (hstart : first.start = whole.start) (hstop : last.stop = whole.stop) : first.join last = whole := by
  obtain ⟨start, stop⟩ := whole
  simp only [Within] at hfirst hlast
  simp only at hstart hstop
  simp only [join, Span.mk.injEq]
  omega

theorem Span.join_eq_left {inner whole : Span} (h : inner.Within whole) : whole.join inner = whole := by
  obtain ⟨start, stop⟩ := whole
  simp only [Within] at h
  simp only [join, Span.mk.injEq]
  omega

theorem Span.join_self (s : Span) : s.join s = s := by
  rw [join, Nat.min_self, Nat.max_self]

namespace Node

theorem head?_tokens (node : Node) : node.tokens.head? = some node.firstToken := by
  cases node with
  | leaf t => rw [tokens_leaf]; rfl
  | bracket name opening children closing => cases name <;> simp [tokens, firstToken]

theorem hull_last_within {nodes : List Node} {last : Node} {front : List Token}
    (h : Ordered (front ++ listTokens nodes)) (hlast : nodes.getLast? = some last) :
    (hull last.tokens).Within (hull (front ++ listTokens nodes)) ∧
      (hull last.tokens).stop = (hull (front ++ listTokens nodes)).stop := by
  obtain ⟨before, rfl⟩ := List.getLast?_eq_some_iff.1 hlast
  rw [listTokens_append, listTokens_singleton, ← List.append_assoc] at h ⊢
  exact ⟨h.hull_within (List.sublist_append_right _ _) last.tokens_ne_nil,
    (hull_append_stop _ last.tokens_ne_nil).symm⟩

mutual

theorem span_eq_hull (node : Node) (h : Ordered node.tokens) : node.span = hull node.tokens := by
  cases node with
  | leaf t => rw [span, tokens_leaf]; rfl
  | bracket name opening children closing =>
    have hhead := head?_tokens (bracket name opening children closing)
    have hstart := (hull_start hhead).symm
    have hfirst := h.within (List.mem_of_mem_head? hhead)
    have hopening := h.within (t := opening) (by simp [tokens])
    -- the last child or the closing parenthesis fills the range, or the opening one if there is neither
    have hfill : ∀ last : Span, (bracket name opening children closing).span =
          ((name.getD opening).span.join last).join opening.span →
        last.Within (hull (bracket name opening children closing).tokens) →
        last.stop = (hull (bracket name opening children closing).tokens).stop →
        (bracket name opening children closing).span = hull (bracket name opening children closing).tokens := by
      intro last hspan hlast hstop
      rw [hspan, ← Span.join_eq_left hopening]
      exact congrArg (fun whole => whole.join opening.span) (Span.join_eq hfirst hlast hstart hstop)
    cases closing with
    | some c =>
      refine hfill c.span (by rw [span]) (h.within (by simp [tokens])) ?_
      rw [tokens, hull_append_stop _ (by simp)]
      rfl
    | none =>
      have htokens : (bracket name opening children none).tokens =
          name.toList ++ [opening] ++ listTokens children := by
        rw [tokens, Option.toList_none, List.append_nil]
      rw [htokens] at h hfirst hopening hstart hfill ⊢
      have hlast := lastSpan?_eq children (h.sublist (List.sublist_append_right _ _))
      cases hnode : children.getLast? with
      | some node =>
        rw [hnode] at hlast
        obtain ⟨hwithin, hstop⟩ := hull_last_within h hnode
        exact hfill _ (by rw [span, hlast]; rfl) hwithin hstop
      | none =>
        obtain rfl := List.getLast?_eq_none_iff.1 hnode
        have hstop : opening.span.stop = (hull (name.toList ++ [opening] ++ listTokens [])).stop := by
          rw [listTokens, List.append_nil, hull_append_stop _ (List.cons_ne_nil opening [])]
          rfl
        rw [span, ← Span.join_eq hfirst hopening hstart hstop]
        exact congrArg (fun whole => whole.join opening.span) (Span.join_self _)

theorem lastSpan?_eq (nodes : List Node) (h : Ordered (listTokens nodes)) :
    lastSpan? nodes = nodes.getLast?.map fun node => hull node.tokens := by
  cases nodes with
  | nil => rfl
  | cons node rest =>
    rw [listTokens] at h
    rw [lastSpan?, lastSpan?_eq rest (h.sublist (List.sublist_append_right _ _))]
    cases rest with
    | nil => simp [span_eq_hull node (h.sublist (List.sublist_append_left _ _))]
    | cons next more =>
      obtain ⟨last, hlast⟩ := Option.ne_none_iff_exists'.1
        (mt List.getLast?_eq_none_iff.1 (List.cons_ne_nil next more))
      rw [List.getLast?_cons_cons, hlast]
      rfl

end

end Node

namespace Statement

theorem firstToken?_eq_head?_tokens (s : Statement) : s.firstToken? = s.tokens.head? := by
  obtain ⟨keyword, children, terminator⟩ := s
  cases keyword with
  | some t => rfl
  | none =>
    cases children with
    | nil => cases terminator <;> rfl
    | cons node rest => simp [firstToken?, tokens, Node.listTokens, Node.head?_tokens]

theorem span_eq_hull {s : Statement} (h : Ordered s.tokens) : s.span = hull s.tokens := by
  cases hhead : s.tokens.head? with
  | none =>
    obtain ⟨keyword, children, terminator⟩ := s
    have hnil := List.head?_eq_none_iff.1 hhead
    simp only [tokens, List.append_eq_nil_iff, Option.toList_eq_nil_iff] at hnil
    obtain ⟨⟨rfl, hchildren⟩, rfl⟩ := hnil
    obtain rfl := Node.eq_nil_of_listTokens_eq_nil hchildren
    rfl
  | some t =>
    have hstart := (hull_start hhead).symm
    have hfirst := h.within (List.mem_of_mem_head? hhead)
    have hfill : ∀ last : Span, s.span = t.span.join last → last.Within (hull s.tokens) →
        last.stop = (hull s.tokens).stop → s.span = hull s.tokens :=
      fun _ hspan hlast hstop => hspan.trans (Span.join_eq hfirst hlast hstart hstop)
    obtain ⟨keyword, children, terminator⟩ := s
    have hfirstToken := (firstToken?_eq_head?_tokens _).trans hhead
    cases terminator with
    | some c =>
      refine hfill c.span ?_ (h.within (by simp [tokens])) ?_
      · rw [span, hfirstToken]
        rfl
      · rw [tokens, hull_append_stop _ (by simp)]
        rfl
    | none =>
      have htokens : (Statement.mk keyword children none).tokens =
          keyword.toList ++ Node.listTokens children := by
        rw [tokens, Option.toList_none, List.append_nil]
      rw [htokens] at h hfill ⊢
      have hlast := Node.lastSpan?_eq children (h.sublist (List.sublist_append_right _ _))
      cases hnode : children.getLast? with
      | some node =>
        rw [hnode] at hlast
        obtain ⟨hwithin, hstop⟩ := Node.hull_last_within h hnode
        refine hfill _ ?_ hwithin hstop
        rw [span, hfirstToken, hlast]
        rfl
      | none =>
        obtain rfl := List.getLast?_eq_none_iff.1 hnode
        cases keyword with
        | none => exact absurd hhead.symm (Option.some_ne_none t)
        | some word => exact Span.join_self word.span

end Statement

theorem Item.span_eq_hull {item : Item} (h : Ordered item.tokens) : item.span = hull item.tokens := by
  cases item with
  | statement s => exact Statement.span_eq_hull h
  | label name colon =>
    refine Span.join_eq (h.within List.mem_cons_self) ?_ rfl rfl
    exact h.within (List.mem_cons_of_mem name List.mem_cons_self)

namespace Node

mutual

/-- The brackets of a node from front to back, the node itself included, each with the number of brackets around it
and its range. -/
def ranges (around : Nat) : Node → List (Nat × Span)
  | .leaf _ => []
  | .bracket name opening children closing =>
    (around, (bracket name opening children closing).span) :: listRanges (around + 1) children

def listRanges (around : Nat) : List Node → List (Nat × Span)
  | [] => []
  | node :: rest => node.ranges around ++ listRanges around rest

end

end Node

def Item.ranges : Item → List (Nat × Span)
  | .statement s => Node.listRanges 0 s.children
  | .label _ _ => []

theorem map_part_sublist_flatMap_parts (ts : List Token) :
    (ts.map fun t => (⟨t.text, t.span⟩ : Part)).Sublist (ts.flatMap Token.parts) := by
  induction ts with
  | nil => exact List.nil_sublist _
  | cons t rest ih =>
    rw [List.map_cons, List.flatMap_cons]
    exact List.Sublist.append (List.sublist_append_right _ [_]) ih

theorem ordered_tokens_scan (v : Vocabulary) (source : List Char) : Ordered (scan v source).tokens := by
  have htiles := tiles_parts_scan v source
  have hparts := (map_part_sublist_flatMap_parts (scan v source).tokens).trans
    (List.sublist_append_left _ ((scan v source).trailing.map Trivia.part))
  constructor
  · intro t ht
    have hpart := hparts.subset (List.mem_map_of_mem (f := fun t => (⟨t.text, t.span⟩ : Part)) ht)
    exact Nat.le_of_lt (htiles.within hpart).2.1
  · exact List.pairwise_map.1 (htiles.ordered.sublist hparts)

end LoadScript
