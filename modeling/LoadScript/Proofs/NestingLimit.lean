import LoadScript.Proofs.SortedProblems
import LoadScript.Proofs.Tree.Ranges
import LoadScript.Proofs.Tree.Truncation

set_option autoImplicit false
set_option relaxedAutoImplicit false

namespace LoadScript

namespace Node

theorem listRanges_map_leaf (around : Nat) (ts : List Token) : listRanges around (ts.map leaf) = [] := by
  induction ts with
  | nil => rfl
  | cons t rest ih => rw [List.map_cons, listRanges, ih, ranges, List.append_nil]

theorem listRanges_append (around : Nat) (front back : List Node) :
    listRanges around (front ++ back) = listRanges around front ++ listRanges around back := by
  induction front with
  | nil => rfl
  | cons node rest ih => rw [List.cons_append, listRanges, ih, listRanges, List.append_assoc]

mutual

theorem le_of_mem_ranges (around : Nat) (node : Node) : ∀ r ∈ node.ranges around, around ≤ r.1 := by
  cases node with
  | leaf t => simp [ranges]
  | bracket name opening children closing =>
    intro r hr
    rw [ranges] at hr
    rcases List.mem_cons.1 hr with rfl | hr
    · exact Nat.le_refl _
    · exact Nat.le_of_succ_le (le_of_mem_listRanges (around + 1) children r hr)

theorem le_of_mem_listRanges (around : Nat) (nodes : List Node) :
    ∀ r ∈ listRanges around nodes, around ≤ r.1 := by
  cases nodes with
  | nil => simp [listRanges]
  | cons node rest =>
    intro r hr
    rw [listRanges] at hr
    rcases List.mem_append.1 hr with hr | hr
    · exact le_of_mem_ranges around node r hr
    · exact le_of_mem_listRanges around rest r hr

end

variable {limit : Nat}

mutual

theorem ranges_truncate (around : Nat) (node : Node) (h : Ordered node.tokens) :
    listRanges around (node.truncate limit around) =
      (node.ranges around).filter fun r => r.1 < limit := by
  cases node with
  | leaf t => simp [truncate, listRanges, ranges]
  | bracket name opening children closing =>
    by_cases hlt : around < limit
    · have htokens := listTokens_truncate limit around (bracket name opening children closing)
      rw [truncate, if_pos hlt, listTokens_singleton] at htokens
      have hspan : (bracket name opening (listTruncate limit (around + 1) children) closing).span =
          (bracket name opening children closing).span := by
        rw [span_eq_hull _ (htokens ▸ h), htokens, span_eq_hull _ h]
      have hchildren : Ordered (listTokens children) := by
        refine h.sublist ?_
        rw [tokens]
        exact (List.sublist_append_right _ _).trans (List.sublist_append_left _ _)
      rw [truncate, if_pos hlt, listRanges, listRanges, List.append_nil, ranges, ranges, hspan,
        ranges_listTruncate (around + 1) children hchildren, List.filter_cons_of_pos (by simpa using hlt)]
    · have hle := Nat.le_of_not_lt hlt
      rw [truncate_of_le hle, listRanges_map_leaf]
      refine (List.filter_eq_nil_iff.2 fun r hr => ?_).symm
      have hr := le_of_mem_ranges around _ r hr
      simpa using Nat.le_trans hle hr

theorem ranges_listTruncate (around : Nat) (nodes : List Node) (h : Ordered (listTokens nodes)) :
    listRanges around (listTruncate limit around nodes) =
      (listRanges around nodes).filter fun r => r.1 < limit := by
  cases nodes with
  | nil => rfl
  | cons node rest =>
    rw [listTokens] at h
    rw [listTruncate, listRanges_append, ranges_truncate around node (h.sublist (List.sublist_append_left _ _)),
      ranges_listTruncate around rest (h.sublist (List.sublist_append_right _ _)), listRanges,
      List.filter_append]

end

end Node

namespace Item

variable {limit : Nat} {item : Item}

theorem tokens_truncate (limit : Nat) (item : Item) : (item.truncate limit).tokens = item.tokens := by
  cases item with
  | statement s => simp [truncate, Statement.truncate, tokens, Statement.tokens, Node.listTokens_listTruncate]
  | label name colon => rfl

theorem span_truncate (h : Ordered item.tokens) : (item.truncate limit).span = item.span := by
  have htokens := tokens_truncate limit item
  rw [span_eq_hull (htokens ▸ h), htokens, span_eq_hull h]

theorem ranges_truncate (h : Ordered item.tokens) :
    (item.truncate limit).ranges = item.ranges.filter fun r => r.1 < limit := by
  cases item with
  | statement s =>
    refine Node.ranges_listTruncate 0 s.children (h.sublist ?_)
    exact (List.sublist_append_right _ _).trans (List.sublist_append_left _ _)
  | label name colon => rfl

end Item

/-- The document with each bracket that has as many others around it as a limit, or more, dissolved into the leaves
of its tokens. -/
def Document.truncate (limit : Nat) (d : Document) : Document :=
  { d with items := d.items.map (Item.truncate limit) }

theorem ordered_tokens_of_mem_items {v : Vocabulary} {limit : Nat} {source : List Char} {item : Item}
    (h : item ∈ (readScript v limit source).document.items) : Ordered item.tokens := by
  refine (ordered_tokens_scan v source).sublist ?_
  rw [← tokens_assemble limit (scan v source).tokens]
  obtain ⟨before, after, hitems⟩ := List.append_of_mem h
  have hsplit : (assemble limit (scan v source).tokens).items = before ++ item :: after := hitems
  rw [hsplit, List.flatMap_append, List.flatMap_cons]
  exact (List.sublist_append_left _ _).trans (List.sublist_append_right _ _)

/-- A smaller nesting limit only truncates the tree, with all ranges kept, and does nothing unless it is reported to
be passed. -/
theorem readScript_truncate (v : Vocabulary) {m n : Nat} (h : m ≤ n) (source : List Char) :
    (readScript v m source).document = (readScript v n source).document.truncate (effectiveDepth m) ∧
      (readScript v m source).document.items.map Item.span =
        (readScript v n source).document.items.map Item.span ∧
      (readScript v m source).document.items.map Item.ranges =
        (readScript v n source).document.items.map
          (fun item => item.ranges.filter fun r => r.1 < effectiveDepth m) ∧
      ((∀ offset limit, .nestedTooDeep offset limit ∉ (readScript v m source).problems) →
        readScript v m source = readScript v n source) := by
  have hitems : (readScript v m source).document.items =
      (readScript v n source).document.items.map (Item.truncate (effectiveDepth m)) :=
    items_assemble_truncate h (scan v source).tokens
  refine ⟨?_, ?_, ?_, ?_⟩
  · rw [Document.truncate, ← hitems]
    rfl
  · rw [hitems, List.map_map]
    exact List.map_congr_left fun item hitem => Item.span_truncate (ordered_tokens_of_mem_items hitem)
  · rw [hitems, List.map_map]
    exact List.map_congr_left fun item hitem => Item.ranges_truncate (ordered_tokens_of_mem_items hitem)
  · intro hproblems
    have hwithin : (assemble m (scan v source).tokens).Within (effectiveDepth m) := by
      intro offset hmem
      exact hproblems offset _ (List.mem_mergeSort.2 (List.mem_append_right _ hmem))
    rw [readScript, assemble_eq_of_within h hwithin, readScript]

/-- Under a limit of one the call inside a call is dissolved and the outer one keeps its range; a limit of two is
enough for both. -/
theorem inner_call_truncated :
    let source := "f(a, g(b));".toList
    let v := Vocabulary.ofTable ⟨"1", []⟩
    1 ≤ 8 ∧ (readScript v 1 source).document = (readScript v 8 source).document.truncate 1 ∧
      (readScript v 8 source).document.items.map Item.ranges = [[(0, ⟨0, 10⟩), (1, ⟨5, 9⟩)]] ∧
      (readScript v 1 source).document.items.map Item.ranges = [[(0, ⟨0, 10⟩)]] ∧
      (readScript v 2 source).problems = [] ∧ readScript v 2 source = readScript v 8 source := by
  intro source v
  obtain ⟨hdocument, -, hranges, -⟩ := readScript_truncate v (m := 1) (n := 8) (by decide) source
  obtain ⟨-, -, -, hequal⟩ := readScript_truncate v (m := 2) (n := 8) (by decide) source
  have hdeep : (readScript v 8 source).document.items.map Item.ranges = [[(0, ⟨0, 10⟩), (1, ⟨5, 9⟩)]] := by
    decide +kernel
  have hshallow := congrArg (List.map (List.filter fun r => decide (r.1 < effectiveDepth 1))) hdeep
  rw [List.map_map] at hshallow
  have hproblems : (readScript v 2 source).problems = [] := by decide +kernel
  refine ⟨by decide, hdocument, hdeep, hranges.trans hshallow, hproblems, hequal fun offset limit => ?_⟩
  rw [hproblems]
  exact List.not_mem_nil

end LoadScript
