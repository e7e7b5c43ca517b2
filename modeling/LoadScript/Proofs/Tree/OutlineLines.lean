import LoadScript.Proofs.Scan.AcceptedWords
import LoadScript.Proofs.Text.Lines
import LoadScript.Proofs.Tree.InnermostNode
import LoadScript.Proofs.Vocabulary.CanonicalSpelling
import LoadScript.Tree.Outline

set_option autoImplicit false
set_option relaxedAutoImplicit false

namespace LoadScript

open Text Unicode CommandLine

namespace Text

structure IsFlush (text : String) : Prop where
  isLine : IsLine text
  head_ne_space : text.toList.head?.any (· != ' ') = true

instance (text : String) : Decidable (IsFlush text) :=
  decidable_of_iff (IsLine text ∧ text.toList.head?.any (· != ' ') = true) ⟨fun h => ⟨h.1, h.2⟩, fun h => ⟨h.1, h.2⟩⟩

theorem IsFlush.exists_head {text : String} (h : IsFlush text) : ∃ c ∈ text.toList.head?, c ≠ ' ' := by
  obtain ⟨c, hc, hne⟩ := (Option.any_eq_true _ _).1 h.head_ne_space
  exact ⟨c, hc, bne_iff_ne.1 hne⟩

theorem IsFlush.append {a b : String} (ha : IsFlush a) (hb : IsLine b) : IsFlush (a ++ b) where
  isLine := ha.isLine.append hb
  head_ne_space := by
    obtain ⟨c, hhead, hne⟩ := (Option.any_eq_true _ _).1 ha.head_ne_space
    rw [String.toList_append, List.head?_append, hhead, Option.some_or]
    exact hne

theorem isLine_indentation (level : Nat) : IsLine (indentation level) := by
  rw [IsLine, indentation, String.toList_ofList]
  intro h
  exact absurd (List.eq_of_mem_replicate h) (by decide)

end Text

theorem Span.isLine_text (s : Span) : IsLine s.text :=
  ((isLine_toString s.start).append (by decide)).append (isLine_toString s.stop)

theorem TokenKind.isFlush_leafName (kind : TokenKind) : IsFlush kind.leafName := by
  unfold leafName
  split
  · decide
  · decide
  · decide
  · split <;> decide

theorem StatementClass.isFlush_name (c : StatementClass) : IsFlush c.name := by
  cases c <;> decide

theorem Node.isFlush_line (node : Node) : IsFlush node.line := by
  cases node with
  | leaf token =>
    have hname : IsFlush (Node.leaf token).name := token.kind.isFlush_leafName
    exact (((hname.append (by decide)).append (isLine_quote _)).append (by decide)).append (Span.isLine_text _)
  | bracket name opening children closing =>
    cases name with
    | none =>
      have hname : IsFlush "Group" := by decide
      exact (hname.append (by decide)).append (Span.isLine_text _)
    | some name =>
      have hname : IsFlush "Call" := by decide
      exact (((hname.append (by decide)).append (isLine_quote _)).append (by decide)).append (Span.isLine_text _)

namespace Node

mutual

/-- The nodes of a tree from front to back, each of them with the nodes around it, innermost first. -/
def enclosed (around : List Node) : Node → List (List Node × Node)
  | .leaf token => [(around, .leaf token)]
  | .bracket name opening children closing =>
    (around, .bracket name opening children closing)
      :: listEnclosed (.bracket name opening children closing :: around) children

def listEnclosed (around : List Node) : List Node → List (List Node × Node)
  | [] => []
  | node :: rest => enclosed around node ++ listEnclosed around rest

end

/-- Holds if a node stands in the innermost of some nodes, each of these in the next, and the last of them among the
given ones. -/
def StandsUnder (top : List Node) : List Node → Node → Prop
  | [], node => node ∈ top
  | outer :: around, node => node ∈ outer.children ∧ StandsUnder top around outer

mutual

theorem map_snd_enclosed (around : List Node) (node : Node) : (enclosed around node).map Prod.snd = node.subtree := by
  cases node with
  | leaf token => rfl
  | bracket name opening children closing =>
    rw [enclosed, List.map_cons, map_snd_listEnclosed _ children, subtree]

theorem map_snd_listEnclosed (around nodes : List Node) :
    (listEnclosed around nodes).map Prod.snd = listSubtree nodes := by
  cases nodes with
  | nil => rfl
  | cons node rest =>
    rw [listEnclosed, List.map_append, map_snd_enclosed around node, map_snd_listEnclosed around rest, listSubtree]

end

mutual

theorem outline_eq_map_enclosed (around : List Node) (node : Node) :
    node.outline (1 + around.length) =
      (enclosed around node).map fun e => indentation (1 + e.1.length) ++ e.2.line := by
  cases node with
  | leaf token => rfl
  | bracket name opening children closing =>
    rw [outline, enclosed, List.map_cons, ← listOutline_eq_map_listEnclosed _ children]
    rfl

theorem listOutline_eq_map_listEnclosed (around nodes : List Node) :
    listOutline (1 + around.length) nodes =
      (listEnclosed around nodes).map fun e => indentation (1 + e.1.length) ++ e.2.line := by
  cases nodes with
  | nil => rfl
  | cons node rest =>
    rw [listOutline, listEnclosed, List.map_append, outline_eq_map_enclosed around node,
      listOutline_eq_map_listEnclosed around rest]

end

mutual

theorem standsUnder_of_mem_enclosed {top around : List Node} (node : Node) (h : StandsUnder top around node) :
    ∀ e ∈ enclosed around node, StandsUnder top e.1 e.2 := by
  cases node with
  | leaf token => exact fun e he => List.mem_singleton.1 he ▸ h
  | bracket name opening children closing =>
    rw [enclosed]
    exact List.forall_mem_cons.2 ⟨h, standsUnder_of_mem_listEnclosed children fun _ hchild => ⟨hchild, h⟩⟩

theorem standsUnder_of_mem_listEnclosed {top around : List Node} (nodes : List Node)
    (h : ∀ node ∈ nodes, StandsUnder top around node) :
    ∀ e ∈ listEnclosed around nodes, StandsUnder top e.1 e.2 := by
  cases nodes with
  | nil => exact fun _ he => absurd he List.not_mem_nil
  | cons node rest =>
    obtain ⟨hnode, hrest⟩ := List.forall_mem_cons.1 h
    rw [listEnclosed]
    exact List.forall_mem_append.2
      ⟨standsUnder_of_mem_enclosed node hnode, standsUnder_of_mem_listEnclosed rest hrest⟩

end

end Node

def Item.line (item : Item) : String :=
  match item with
  | .statement s => s.statementClass.name ++ " " ++ s.keywordName?.getD "-" ++ " " ++ s.span.text
  | .label name _ => "Label " ++ quote name.text ++ " " ++ item.span.text

/-- What a line of an outline stands for: an item, or a node of it with the nodes around it, innermost first. -/
inductive OutlineEntry where
  | ofItem (item : Item)
  | ofNode (item : Item) (around : List Node) (node : Node)

namespace OutlineEntry

/-- The level of an item is zero, and that of a node is one more than the number of nodes around it. -/
def level : OutlineEntry → Nat
  | .ofItem _ => 0
  | .ofNode _ around _ => 1 + around.length

def line : OutlineEntry → String
  | .ofItem item => item.line
  | .ofNode _ _ node => node.line

def subject : OutlineEntry → Item ⊕ Node
  | .ofItem item => .inl item
  | .ofNode _ _ node => .inr node

def StandsIn (d : Document) : OutlineEntry → Prop
  | .ofItem item => item ∈ d.items
  | .ofNode item around node => item ∈ d.items ∧ Node.StandsUnder item.children around node

end OutlineEntry

def Item.entries (item : Item) : List OutlineEntry :=
  .ofItem item :: (Node.listEnclosed [] item.children).map fun e => .ofNode item e.1 e.2

def Document.entries (d : Document) : List OutlineEntry :=
  d.items.flatMap Item.entries

theorem Item.outline_eq_map_entries (item : Item) :
    item.outline = item.entries.map fun e => indentation e.level ++ e.line := by
  have hzero : ∀ text : String, indentation 0 ++ text = text := fun text => String.empty_append
  cases item with
  | statement s =>
    have hnodes := Node.listOutline_eq_map_listEnclosed [] s.children
    rw [entries, List.map_cons, List.map_map]
    exact List.cons_eq_cons.2 ⟨(hzero _).symm, hnodes⟩
  | label name colon => exact List.cons_eq_cons.2 ⟨(hzero _).symm, rfl⟩

theorem Item.map_subject_entries (item : Item) :
    item.entries.map OutlineEntry.subject = .inl item :: item.nodes.map .inr := by
  rw [entries, List.map_cons, List.map_map, nodes, ← Node.map_snd_listEnclosed [] item.children, List.map_map]
  rfl

theorem Item.isFlush_line {item : Item}
    (h : ∀ t ∈ item.tokens, ∀ spelling, t.canonical = some spelling → IsLine spelling) : IsFlush item.line := by
  cases item with
  | statement s =>
    have hkeyword : IsLine (s.keywordName?.getD "-") := by
      cases hname : s.keywordName? with
      | none => decide
      | some spelling =>
        obtain ⟨t, ht, hcanonical⟩ := Option.bind_eq_some_iff.1 hname
        refine h t ?_ spelling hcanonical
        rw [tokens, Statement.tokens, ht]
        exact List.mem_cons_self
    exact (((s.statementClass.isFlush_name.append (by decide)).append hkeyword).append (by decide)).append
      (Span.isLine_text _)
  | label name colon =>
    have hlabel : IsFlush "Label " := by decide
    exact ((hlabel.append (isLine_quote _)).append (by decide)).append (Span.isLine_text _)

theorem exists_canonical_of_mem_scan {table : KeywordTable} {v : Vocabulary} (haccept : Vocabulary.accept table = .ok v)
    {source : List Char} {t : Token} (ht : t ∈ (scan v source).tokens) {spelling : String}
    (h : t.canonical = some spelling) : ∃ k ∈ table.keywords, k.WellSpelled ∧ spelling = k.canonical := by
  obtain ⟨start, taken, ⟨kind, text, -, rfl⟩ | ⟨m, hm, rfl⟩⟩ := Scan.exists_of_mem_ofPieces ht
  · exact absurd h.symm (Option.some_ne_none spelling)
  · obtain ⟨text, -, rfl⟩ := exists_of_words_mem_pieces hm
    have hcanonical : (v.wordMatch text).canonical = some spelling := h
    rcases Vocabulary.wordMatch_of_accept haccept text with hname | ⟨k, hk, _, hspelled, -, -, hmatch⟩
    · rw [hname] at hcanonical
      exact absurd hcanonical.symm (Option.some_ne_none spelling)
    · rw [hmatch] at hcanonical
      exact ⟨k, hk, hspelled, (Option.some.inj hcanonical).symm⟩

theorem Keyword.WellSpelled.isLine_canonical {k : Keyword} (h : k.WellSpelled) : IsLine k.canonical := by
  intro hnewline
  exact absurd (h.eq_space_of_mem_canonical hnewline newline_isWhiteSpace) (by decide)

theorem isFlush_line_of_mem_entries {table : KeywordTable} {v : Vocabulary} (haccept : Vocabulary.accept table = .ok v)
    (limit : Nat) (source : List Char) {e : OutlineEntry} (he : e ∈ (readScript v limit source).document.entries) :
    IsFlush e.line := by
  obtain ⟨item, hitem, he⟩ := List.mem_flatMap.1 he
  have htokens : ∀ t ∈ item.tokens, t ∈ (scan v source).tokens := by
    intro t ht
    rw [← tokens_assemble limit (scan v source).tokens]
    exact List.mem_flatMap.2 ⟨item, hitem, ht⟩
  rcases List.mem_cons.1 he with rfl | he
  · refine Item.isFlush_line fun t ht spelling hcanonical => ?_
    obtain ⟨k, -, hspelled, rfl⟩ := exists_canonical_of_mem_scan haccept (htokens t ht) hcanonical
    exact hspelled.isLine_canonical
  · obtain ⟨⟨around, node⟩, -, rfl⟩ := List.mem_map.1 he
    exact node.isFlush_line

theorem Document.standsIn_of_mem_entries {d : Document} {e : OutlineEntry} (he : e ∈ d.entries) : e.StandsIn d := by
  obtain ⟨item, hitem, he⟩ := List.mem_flatMap.1 he
  rcases List.mem_cons.1 he with rfl | he
  · exact hitem
  · obtain ⟨entry, hentry, rfl⟩ := List.mem_map.1 he
    have hchildren : ∀ node ∈ item.children, Node.StandsUnder item.children [] node := fun _ h => h
    exact ⟨hitem, Node.standsUnder_of_mem_listEnclosed item.children hchildren entry hentry⟩

/-- Between the line breaks of an outline stand the lines of its items and nodes and nothing else: each item is followed
by its nodes from front to back, each of them once, behind two spaces for each level. -/
theorem outline_one_line_per_node {table : KeywordTable} {v : Vocabulary} (haccept : Vocabulary.accept table = .ok v)
    (limit : Nat) (source : List Char) :
    let d := (readScript v limit source).document
    (closeLines d.outline).toList.splitOn '\n' =
        d.entries.map (fun e => List.replicate (2 * e.level) ' ' ++ e.line.toList) ++ [[]] ∧
      d.entries.map OutlineEntry.subject = d.items.flatMap (fun item => .inl item :: item.nodes.map .inr) ∧
      ∀ e ∈ d.entries, e.StandsIn d ∧ ∃ c ∈ e.line.toList.head?, c ≠ ' ' := by
  intro d
  have hoverall : d.outline = d.entries.map fun e => indentation e.level ++ e.line := by
    rw [Document.outline, Document.entries, List.map_flatMap]
    exact congrArg (List.flatMap · d.items) (funext Item.outline_eq_map_entries)
  have hflush : ∀ e ∈ d.entries, IsFlush e.line := fun e => isFlush_line_of_mem_entries haccept limit source
  refine ⟨?_, ?_, fun e he => ⟨Document.standsIn_of_mem_entries he, (hflush e he).exists_head⟩⟩
  · rw [hoverall, splitOn_closeLines, List.map_map]
    · refine congrArg (· ++ [[]]) (List.map_congr_left fun e _ => ?_)
      rw [Function.comp_apply, String.toList_append, indentation, String.toList_ofList]
    · intro line hline
      obtain ⟨e, he, rfl⟩ := List.mem_map.1 hline
      exact (isLine_indentation e.level).append (hflush e he).isLine
  · rw [Document.entries, List.map_flatMap]
    exact congrArg (List.flatMap · d.items) (funext Item.map_subject_entries)

theorem outline_of_broken_texts :
    let table : KeywordTable := ⟨"1", [⟨"left\tjoin", .script, .leader, false⟩]⟩
    let v := Vocabulary.ofTable table
    let d := (readScript v 8 "left/* a\n */join [b\nc]('d\ne', (3))".toList).document
    Vocabulary.accept table = .ok v ∧ d.entries.map OutlineEntry.level = [0, 1, 1, 2, 2, 2, 3] ∧
      (closeLines d.outline).toList.splitOn '\n' =
        d.entries.map (fun e => List.replicate (2 * e.level) ' ' ++ e.line.toList) ++ [[]] := by
  intro table v d
  have hfault : table.fault? = none := by decide +kernel
  have haccept : Vocabulary.accept table = .ok v := Vocabulary.accept_of_fault? hfault
  exact ⟨haccept, by decide +kernel, (outline_one_line_per_node haccept 8 _).1⟩

end LoadScript
