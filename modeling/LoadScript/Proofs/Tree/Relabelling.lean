import LoadScript.Proofs.Scan.Shift
import LoadScript.Proofs.Tree.Conservation
import LoadScript.Proofs.Tree.Ranges

/-!
Assembly of changed tokens. Items are assembled by the kinds of tokens, and problems are noted where tokens start.
So a change of tokens that keeps their kinds can be made before the assembly or in the tree, and the problems move
as the starts of the tokens do.
-/

set_option autoImplicit false
set_option relaxedAutoImplicit false

namespace LoadScript

/-- A change of tokens that keeps their kinds and moves their starts as it moves offsets. -/
structure Relabelling where
  token : Token → Token
  offset : Nat → Nat
  kind_token : ∀ t, (token t).kind = t.kind
  start_token : ∀ t, (token t).span.start = offset t.span.start

namespace Node

mutual

def map (f : Token → Token) : Node → Node
  | .leaf token => .leaf (f token)
  | .bracket name opening children closing =>
    .bracket (name.map f) (f opening) (listMap f children) (closing.map f)

def listMap (f : Token → Token) : List Node → List Node
  | [] => []
  | node :: rest => node.map f :: listMap f rest

end

theorem listMap_eq_map (f : Token → Token) (nodes : List Node) : listMap f nodes = nodes.map (map f) := by
  induction nodes with
  | nil => rfl
  | cons node rest ih => rw [listMap, ih, List.map_cons]

end Node

def Statement.map (f : Token → Token) (s : Statement) : Statement :=
  ⟨s.keyword.map f, s.children.map (Node.map f), s.terminator.map f⟩

def Item.map (f : Token → Token) : Item → Item
  | .statement s => .statement (s.map f)
  | .label name colon => .label (f name) (f colon)

/-- Holds if a change of tokens moves their ranges so that joined ranges move to the join of the moved ones. -/
structure MovesSpans (f : Token → Token) (g : Span → Span) : Prop where
  span_token : ∀ t, (f t).span = g t.span
  span_join : ∀ a b, g (a.join b) = (g a).join (g b)

variable {f : Token → Token} {g : Span → Span}

namespace Node

mutual

theorem span_map (h : MovesSpans f g) (node : Node) : (node.map f).span = g node.span := by
  cases node with
  | leaf token => exact h.span_token token
  | bracket name opening children closing =>
    have hfirst : ((name.map f).getD (f opening)).span = g (name.getD opening).span := by
      cases name <;> exact h.span_token _
    simp only [map, span, hfirst, h.span_join, h.span_token]
    cases closing with
    | some token => simp only [Option.map_some, h.span_token]
    | none =>
      have hlast := Option.getD_map g (name.getD opening).span (lastSpan? children)
      rw [Option.map_none, lastSpan?_listMap h children, hlast]

theorem lastSpan?_listMap (h : MovesSpans f g) (nodes : List Node) :
    lastSpan? (listMap f nodes) = (lastSpan? nodes).map g := by
  cases nodes with
  | nil => rfl
  | cons node rest =>
    rw [listMap, lastSpan?, lastSpan?, lastSpan?_listMap h rest, span_map h node]
    cases lastSpan? rest <;> rfl

end

mutual

theorem ranges_map (h : MovesSpans f g) (around : Nat) (node : Node) :
    (node.map f).ranges around = (node.ranges around).map fun r => (r.1, g r.2) := by
  cases node with
  | leaf token => simp [map, ranges]
  | bracket name opening children closing =>
    have hnode := span_map h (bracket name opening children closing)
    rw [map] at hnode ⊢
    rw [ranges, ranges, hnode, listRanges_listMap h (around + 1) children, List.map_cons]

theorem listRanges_listMap (h : MovesSpans f g) (around : Nat) (nodes : List Node) :
    listRanges around (listMap f nodes) = (listRanges around nodes).map fun r => (r.1, g r.2) := by
  cases nodes with
  | nil => simp [listMap, listRanges]
  | cons node rest =>
    rw [listMap, listRanges, ranges_map h around node, listRanges_listMap h around rest, listRanges,
      List.map_append]

end

end Node

theorem Statement.firstToken?_map (f : Token → Token) (s : Statement) :
    (s.map f).firstToken? = s.firstToken?.map f := by
  obtain ⟨keyword, children, terminator⟩ := s
  cases keyword with
  | some t => rfl
  | none =>
    match children with
    | [] => rfl
    | .leaf t :: rest => rfl
    | .bracket name opening inside closing :: rest => cases name <;> rfl

theorem Statement.exists_firstToken? {s : Statement} (h : s.tokens ≠ []) :
    ∃ t, s.firstToken? = some t := by
  rw [firstToken?_eq_head?_tokens]
  exact Option.ne_none_iff_exists'.1 (mt List.head?_eq_none_iff.1 h)

theorem Item.span_map (h : MovesSpans f g) {item : Item} (hitem : item.tokens ≠ []) :
    (item.map f).span = g item.span := by
  cases item with
  | label name colon => simp only [map, span, h.span_join, h.span_token]
  | statement s =>
    obtain ⟨first, hfirst⟩ := Statement.exists_firstToken? hitem
    have hmap := s.firstToken?_map f
    rw [hfirst] at hmap
    rw [map, span, span, Statement.span, Statement.span, hmap, hfirst, h.span_join]
    obtain ⟨keyword, children, terminator⟩ := s
    cases terminator with
    | some t => simp only [Statement.map, Option.map_some, Option.getD_some, h.span_token]
    | none =>
      have hlast := Node.lastSpan?_listMap h children
      rw [Node.listMap_eq_map] at hlast
      simp only [Statement.map, hlast, Option.map_none, Option.map_some, Option.getD_some, h.span_token]
      exact congrArg (Span.join _) (Option.getD_map g first.span (Node.lastSpan? children))

theorem Item.ranges_map (h : MovesSpans f g) (item : Item) :
    (item.map f).ranges = item.ranges.map fun r => (r.1, g r.2) := by
  cases item with
  | label name colon => rfl
  | statement s =>
    have hranges := Node.listRanges_listMap h 0 s.children
    rwa [Node.listMap_eq_map] at hranges

def OpenBracket.map (f : Token → Token) (b : OpenBracket) : OpenBracket :=
  ⟨b.name.map f, f b.opening, b.before.map (Node.map f)⟩

theorem OpenBracket.finish_map (f : Token → Token) (b : OpenBracket) (inside : List Node)
    (closing : Option Token) :
    (b.map f).finish (inside.map (Node.map f)) (closing.map f) = (b.finish inside closing).map (Node.map f) := by
  rw [finish, finish, List.map_cons, Node.map, Node.listMap_eq_map, List.map_reverse]
  rfl

def Draft.map (f : Token → Token) (d : Draft) : Draft :=
  ⟨d.keyword.map f, d.brackets.map (OpenBracket.map f), d.nodes.map (Node.map f), d.excess.map f⟩

def Progress.map (f : Token → Token) : Progress → Progress
  | .between => .between
  | .labelled name => .labelled (f name)
  | .inside d => .inside (d.map f)
  | .headed d => .headed (d.map f)

def Assembly.relabel (r : Relabelling) (a : Assembly) : Assembly :=
  ⟨a.items.map (Item.map r.token), a.problems.map (Problem.mapOffset r.offset)⟩

variable (r : Relabelling)

theorem Relabelling.role?_token (t : Token) : (r.token t).role? = t.role? := by
  rw [Token.role?, r.kind_token, Token.role?]

namespace Draft

variable (d : Draft) (t : Token)

theorem isOutermost_map (f : Token → Token) : (d.map f).isOutermost = d.isOutermost := by
  simp [isOutermost, map]

theorem statementClass_map : (d.map r.token).statementClass = d.statementClass := by
  unfold statementClass
  cases hkeyword : d.keyword <;> simp [map, hkeyword, r.kind_token]

theorem opened_map (nodes : List Node) :
    opened (nodes.map (Node.map r.token)) (r.token t) = (opened nodes t).map r.token := by
  match nodes with
  | [] => rfl
  | .bracket name opening children closing :: before => rfl
  | .leaf name :: before =>
    by_cases hname : name.kind = .identifier <;> simp [opened, Node.map, OpenBracket.map, r.kind_token, hname]

theorem push_map : (d.map r.token).push (r.token t) = (d.push t).map r.token := by
  simp [push, map, opened_map]

theorem addOpening_map (limit : Nat) : (d.map r.token).addOpening limit (r.token t) =
    ((d.addOpening limit t).1.map (Problem.mapOffset r.offset), (d.addOpening limit t).2.map r.token) := by
  unfold addOpening
  have hexcess : (d.map r.token).excess.isEmpty = d.excess.isEmpty := by simp [map]
  have hbrackets : (d.map r.token).brackets.length = d.brackets.length := by simp [map]
  rw [hexcess, hbrackets, r.start_token]
  split
  · rfl
  · split
    · rw [push_map]
      rfl
    · rfl

theorem addClosing_map : (d.map r.token).addClosing (r.token t) =
    ((d.addClosing t).1.map (Problem.mapOffset r.offset), (d.addClosing t).2.map r.token) := by
  obtain ⟨keyword, brackets, nodes, excess⟩ := d
  match excess, brackets with
  | _ :: outer, brackets => rfl
  | [], b :: outer =>
    have hfinish := b.finish_map r.token nodes (some t)
    simp only [addClosing, map, List.map_nil, List.map_cons]
    rw [← hfinish]
    rfl
  | [], [] =>
    simp only [addClosing, map, List.map_nil, r.start_token]
    rfl

theorem add_map (limit : Nat) : (d.map r.token).add limit (r.token t) =
    ((d.add limit t).1.map (Problem.mapOffset r.offset), (d.add limit t).2.map r.token) := by
  unfold add
  rw [r.kind_token]
  split
  · exact d.addOpening_map r t limit
  · exact d.addClosing_map r t
  · rfl

theorem collapse_map (f : Token → Token) (nodes : List Node) (brackets : List OpenBracket) :
    collapse (nodes.map (Node.map f)) (brackets.map (OpenBracket.map f)) =
      (collapse nodes brackets).map (Node.map f) := by
  induction brackets generalizing nodes with
  | nil => rfl
  | cons b outer ih =>
    have hfinish := b.finish_map f nodes none
    rw [Option.map_none] at hfinish
    rw [List.map_cons, collapse, hfinish, ih, collapse]

theorem finish_map (f : Token → Token) (terminator : Option Token) :
    (d.map f).finish (terminator.map f) = (d.finish terminator).map f := by
  have hcollapse := collapse_map f d.nodes d.brackets
  rw [finish, finish, Item.map, Statement.map, List.map_reverse, ← hcollapse]
  rfl

theorem unclosed_map : (d.map r.token).unclosed = d.unclosed.map (Problem.mapOffset r.offset) := by
  have hexcess : (d.map r.token).excess.getLast?.toList = d.excess.getLast?.toList.map r.token := by
    rw [map, List.getLast?_map, Option.toList_map]
  have hopening : (d.map r.token).brackets.map OpenBracket.opening =
      (d.brackets.map OpenBracket.opening).map r.token := by
    rw [map, List.map_map, List.map_map]
    rfl
  rw [unclosed, hexcess, hopening, ← List.map_append, List.map_map, unclosed, List.map_map]
  exact List.map_congr_left fun t _ => congrArg Problem.unmatchedOpen (r.start_token t)

theorem endsBefore_map (next : Option Token) :
    (d.map r.token).endsBefore (r.token t) (next.map r.token) = d.endsBefore t next := by
  simp only [endsBefore, isOutermost_map, statementClass_map, r.role?_token, r.kind_token, Option.any_map]

theorem isHeaderEnd_map : (d.map r.token).isHeaderEnd (r.token t) = d.isHeaderEnd t := by
  rw [isHeaderEnd, isHeaderEnd, isOutermost_map, statementClass_map, r.role?_token]

end Draft

namespace Assembly

theorem relabel_append (a b : Assembly) : (a.append b).relabel r = (a.relabel r).append (b.relabel r) := by
  simp [relabel, append]

theorem relabel_ofDraft (d : Draft) (terminator : Option Token) :
    (ofDraft d terminator).relabel r = ofDraft (d.map r.token) (terminator.map r.token) := by
  rw [ofDraft, relabel, List.map_singleton, ← d.finish_map, ← d.unclosed_map, ofDraft]

end Assembly

namespace Progress

variable (limit : Nat) (t : Token)

theorem enter_map (next : Option Token) :
    enter limit (r.token t) (next.map r.token) =
      ((enter limit t next).1.relabel r, (enter limit t next).2.map r.token) := by
  have hcolon : ((next.map r.token).any fun u => u.kind == .colon) =
      next.any fun u => u.kind == .colon := by
    simp only [Option.any_map, r.kind_token]
  have hadd := (Draft.start none).add_map r t limit
  unfold enter
  rw [r.kind_token, r.role?_token, hcolon]
  split
  · rfl
  · split
    · rw [Assembly.relabel_ofDraft]
      rfl
    · split
      · have hstart : (Draft.start none).map r.token = .start none := rfl
        rw [hstart] at hadd
        simp only [hadd]
        rfl
      · split
        · rfl
        · rfl

theorem step_map (p : Progress) (next : Option Token) :
    (p.map r.token).step limit (r.token t) (next.map r.token) =
      ((p.step limit t next).1.relabel r, (p.step limit t next).2.map r.token) := by
  have henter := enter_map r limit t next
  cases p with
  | between => exact henter
  | labelled name => rfl
  | inside d =>
    have hadd := d.add_map r t limit
    rw [map, step, step, r.kind_token, d.endsBefore_map, d.isHeaderEnd_map]
    split
    · rw [Assembly.relabel_ofDraft]
      rfl
    · split
      · simp only [henter, Assembly.relabel_append, Assembly.relabel_ofDraft]
        rfl
      · simp only [hadd]
        split
        · rfl
        · rfl
  | headed d =>
    rw [map, step, step, r.kind_token]
    split
    · rw [Assembly.relabel_ofDraft]
      rfl
    · simp only [henter, Assembly.relabel_append, Assembly.relabel_ofDraft]
      rfl

theorem finish_map (p : Progress) : (p.map r.token).finish = p.finish.relabel r := by
  cases p with
  | between => rfl
  | labelled name => exact (Assembly.relabel_ofDraft r ((Draft.start none).addLeaf name) none).symm
  | inside d => exact (Assembly.relabel_ofDraft r d none).symm
  | headed d => exact (Assembly.relabel_ofDraft r d none).symm

theorem run_map (p : Progress) (ts : List Token) :
    (p.map r.token).run limit (ts.map r.token) = (p.run limit ts).relabel r := by
  induction ts generalizing p with
  | nil => exact p.finish_map r
  | cons t rest ih =>
    have hstep := p.step_map r limit t rest.head?
    rw [List.map_cons, run, List.head?_map, hstep, run, Assembly.relabel_append, ← ih]

end Progress

/-- Changed tokens are assembled into the changed items. -/
theorem assemble_relabel (limit : Nat) (tokens : List Token) :
    assemble limit (tokens.map r.token) = (assemble limit tokens).relabel r :=
  Progress.run_map r (effectiveDepth limit) .between tokens

end LoadScript
