import LoadScript.Proofs.Tree.Places
import LoadScript.Proofs.Tree.Segments

/-!
Trees under a smaller nesting limit. Reading with parentheses counted beyond the limit and reading with a node for
each of them use up the same tokens, so the tree under a smaller limit is the other one with its deeper nodes
dissolved into leaves. The statement in progress is related at each token; nothing of it but the open parentheses
beyond the smaller limit differs in kind.
-/

set_option autoImplicit false
set_option relaxedAutoImplicit false

namespace LoadScript

namespace Node

mutual

/-- A node that stands inside some others, where each bracket with as many others around it as the limit, or more,
is dissolved into the leaves of its tokens. -/
def truncate (limit around : Nat) : Node → List Node
  | .leaf token => [.leaf token]
  | .bracket name opening children closing =>
    if around < limit then [.bracket name opening (listTruncate limit (around + 1) children) closing]
    else (bracket name opening children closing).tokens.map leaf

def listTruncate (limit around : Nat) : List Node → List Node
  | [] => []
  | node :: rest => node.truncate limit around ++ listTruncate limit around rest

end

end Node

def Statement.truncate (limit : Nat) (s : Statement) : Statement :=
  { s with children := Node.listTruncate limit 0 s.children }

def Item.truncate (limit : Nat) : Item → Item
  | .statement s => .statement (s.truncate limit)
  | .label name colon => .label name colon

namespace Node

variable (limit around : Nat)

theorem listTruncate_append (front back : List Node) :
    listTruncate limit around (front ++ back) =
      listTruncate limit around front ++ listTruncate limit around back := by
  induction front with
  | nil => rfl
  | cons node rest ih => rw [List.cons_append, listTruncate, ih, listTruncate, List.append_assoc]

theorem listTruncate_singleton (node : Node) :
    listTruncate limit around [node] = node.truncate limit around := by
  rw [listTruncate, listTruncate, List.append_nil]

theorem listTokens_map_leaf (ts : List Token) : listTokens (ts.map leaf) = ts := by
  induction ts with
  | nil => rfl
  | cons t rest ih => rw [List.map_cons, listTokens, ih, tokens_leaf, List.singleton_append]

mutual

theorem listTokens_truncate (around : Nat) (node : Node) :
    listTokens (node.truncate limit around) = node.tokens := by
  cases node with
  | leaf t => rw [truncate, listTokens_singleton]
  | bracket name opening children closing =>
    rw [truncate]
    split
    · rw [listTokens_singleton, tokens, listTokens_listTruncate (around + 1) children, tokens]
    · exact listTokens_map_leaf _

theorem listTokens_listTruncate (around : Nat) (nodes : List Node) :
    listTokens (listTruncate limit around nodes) = listTokens nodes := by
  cases nodes with
  | nil => rfl
  | cons node rest =>
    rw [listTruncate, listTokens_append, listTokens_truncate around node,
      listTokens_listTruncate around rest, listTokens]

end

variable {limit around}

theorem truncate_of_le (h : limit ≤ around) (node : Node) :
    node.truncate limit around = node.tokens.map leaf := by
  cases node with
  | leaf t => rw [truncate, tokens_leaf, List.map_singleton]
  | bracket name opening children closing => rw [truncate, if_neg (Nat.not_lt.2 h)]

theorem listTruncate_of_le (h : limit ≤ around) (nodes : List Node) :
    listTruncate limit around nodes = (listTokens nodes).map leaf := by
  induction nodes with
  | nil => rfl
  | cons node rest ih => rw [listTruncate, ih, truncate_of_le h, listTokens, List.map_append]

/-- Nodes that stand latest first, truncated. -/
def truncateBack (limit around : Nat) (nodes : List Node) : List Node :=
  (listTruncate limit around nodes.reverse).reverse

theorem truncateBack_cons (node : Node) (nodes : List Node) :
    truncateBack limit around (node :: nodes) =
      (node.truncate limit around).reverse ++ truncateBack limit around nodes := by
  rw [truncateBack, List.reverse_cons, listTruncate_append, listTruncate_singleton, List.reverse_append,
    truncateBack]

theorem truncateBack_leaf (t : Token) (nodes : List Node) :
    truncateBack limit around (.leaf t :: nodes) = .leaf t :: truncateBack limit around nodes := by
  rw [truncateBack_cons, truncate]
  rfl

theorem truncateBack_of_le (h : limit ≤ around) (nodes : List Node) :
    truncateBack limit around nodes = ((listTokens nodes.reverse).map leaf).reverse := by
  rw [truncateBack, listTruncate_of_le h]

end Node

open Node

def OpenBracket.truncate (limit around : Nat) (b : OpenBracket) : OpenBracket :=
  { b with before := truncateBack limit around b.before }

def OpenBracket.listTruncate (limit : Nat) : List OpenBracket → List OpenBracket
  | [] => []
  | b :: outer => b.truncate limit outer.length :: listTruncate limit outer

namespace OpenBracket

variable {limit around : Nat}

theorem length_listTruncate (limit : Nat) (brackets : List OpenBracket) :
    (listTruncate limit brackets).length = brackets.length := by
  induction brackets with
  | nil => rfl
  | cons b outer ih => rw [listTruncate, List.length_cons, ih, List.length_cons]

theorem truncateBack_finish (h : around < limit) (b : OpenBracket) (inside : List Node)
    (closing : Option Token) :
    truncateBack limit around (b.finish inside closing) =
      (b.truncate limit around).finish (truncateBack limit (around + 1) inside) closing := by
  have hinside : (truncateBack limit (around + 1) inside).reverse =
      Node.listTruncate limit (around + 1) inside.reverse :=
    List.reverse_reverse _
  rw [finish, truncateBack_cons, Node.truncate, if_pos h, finish, hinside]
  rfl

end OpenBracket

namespace Draft

variable {limit around : Nat}

theorem truncateBack_collapse (nodes : List Node) {brackets : List OpenBracket}
    (h : brackets.length ≤ limit) :
    truncateBack limit 0 (collapse nodes brackets) =
      collapse (truncateBack limit brackets.length nodes) (OpenBracket.listTruncate limit brackets) := by
  induction brackets generalizing nodes with
  | nil => rfl
  | cons b outer ih =>
    have hlt : outer.length < limit := h
    rw [collapse, ih _ (Nat.le_of_lt hlt), OpenBracket.truncateBack_finish hlt, OpenBracket.listTruncate,
      collapse]
    rfl

theorem collapse_append (nodes : List Node) (inner outer : List OpenBracket) :
    collapse nodes (inner ++ outer) = collapse (collapse nodes inner) outer := by
  induction inner generalizing nodes with
  | nil => rfl
  | cons b rest ih => rw [List.cons_append, collapse, ih, collapse]

/-- Beyond the limit all that matters of a statement in progress are its tokens. -/
theorem truncateBack_collapse_of_le (h : limit ≤ around) (nodes : List Node) (brackets : List OpenBracket) :
    truncateBack limit around (collapse nodes brackets) =
      ((brackets.reverse.flatMap OpenBracket.tokens ++ listTokens nodes.reverse).map leaf).reverse := by
  rw [truncateBack_of_le h, listTokens_collapse]

/-- A statement in progress, and the same one under a smaller limit: the parentheses that are open beyond that limit
are not nodes there, and the nodes in front of the others are truncated. -/
inductive Cut (limit : Nat) : Draft → Draft → Prop
  | intro (keyword : Option Token) (beyond kept : List OpenBracket) (nodes : List Node) (excess : List Token) :
    kept.length ≤ limit → (beyond ≠ [] → kept.length = limit) →
    Cut limit ⟨keyword, beyond ++ kept, nodes, excess⟩
      ⟨keyword, OpenBracket.listTruncate limit kept, truncateBack limit kept.length (collapse nodes beyond),
        excess ++ beyond.map OpenBracket.opening⟩

theorem truncate_opened (h : around < limit) (nodes : List Node) (t : Token) :
    (opened nodes t).truncate limit around = opened (truncateBack limit around nodes) t := by
  cases nodes with
  | nil => rfl
  | cons node before =>
    cases node with
    | leaf name =>
      rw [truncateBack_leaf]
      by_cases hname : name.kind = .identifier
      · simp [opened, hname, OpenBracket.truncate]
      · simp [opened, hname, OpenBracket.truncate, truncateBack_leaf]
    | bracket name opening children closing =>
      simp [opened, OpenBracket.truncate, truncateBack_cons, Node.truncate, h]

section Beyond

variable {keyword : Option Token} {beyond kept : List OpenBracket} {nodes : List Node} {excess : List Token}

theorem truncateBack_collapse_leaf (hbeyond : beyond ≠ [] → kept.length = limit) (t : Token) :
    truncateBack limit kept.length (collapse (.leaf t :: nodes) beyond) =
      .leaf t :: truncateBack limit kept.length (collapse nodes beyond) := by
  by_cases hnil : beyond = []
  · rw [hnil]
    exact truncateBack_leaf t nodes
  · have hle := Nat.le_of_eq (hbeyond hnil).symm
    rw [truncateBack_collapse_of_le hle, truncateBack_collapse_of_le hle]
    simp

theorem truncateBack_collapse_opened (h : kept.length = limit) (t : Token) :
    truncateBack limit kept.length (collapse [] (opened nodes t :: beyond)) =
      .leaf t :: truncateBack limit kept.length (collapse nodes beyond) := by
  have hle := Nat.le_of_eq h.symm
  rw [truncateBack_collapse_of_le hle, truncateBack_collapse_of_le hle]
  simp [tokens_opened, listTokens]

theorem truncateBack_collapse_finish (h : kept.length = limit) (b : OpenBracket) (t : Token) :
    truncateBack limit kept.length (collapse (b.finish nodes (some t)) beyond) =
      .leaf t :: truncateBack limit kept.length (collapse nodes (b :: beyond)) := by
  have hle := Nat.le_of_eq h.symm
  rw [truncateBack_collapse_of_le hle, truncateBack_collapse_of_le hle]
  simp [OpenBracket.finish, OpenBracket.tokens, Node.tokens]

variable (beyond) in
theorem cut_addLeaf (hkept : kept.length ≤ limit) (hbeyond : beyond ≠ [] → kept.length = limit) (t : Token)
    (counted : List Token) :
    Cut limit { addLeaf ⟨keyword, beyond ++ kept, nodes, excess⟩ t with excess := counted }
      { addLeaf ⟨keyword, OpenBracket.listTruncate limit kept,
          truncateBack limit kept.length (collapse nodes beyond), excess⟩ t with
        excess := counted ++ beyond.map OpenBracket.opening } := by
  have hcut := Cut.intro keyword beyond kept (.leaf t :: nodes) counted hkept hbeyond
  rwa [truncateBack_collapse_leaf hbeyond] at hcut

variable (beyond) in
theorem cut_opened (h : kept.length = limit) (t : Token) :
    Cut limit ⟨keyword, opened nodes t :: (beyond ++ kept), [], []⟩
      { addLeaf ⟨keyword, OpenBracket.listTruncate limit kept,
          truncateBack limit kept.length (collapse nodes beyond), []⟩ t with
        excess := t :: beyond.map OpenBracket.opening } := by
  have hcut := Cut.intro keyword (opened nodes t :: beyond) kept [] [] (Nat.le_of_eq h) fun _ => h
  rw [truncateBack_collapse_opened h, List.map_cons, opening_opened] at hcut
  exact hcut

end Beyond

variable {m n : Nat} {d e : Draft}

theorem Cut.addOpening (h : Cut m d e) (hle : m ≤ n) (t : Token) :
    Cut m (d.addOpening n t).2 (e.addOpening m t).2 := by
  obtain ⟨keyword, beyond, kept, nodes, excess, hkept, hbeyond⟩ := h
  have hlength := OpenBracket.length_listTruncate m kept
  cases excess with
  | cons u counted => exact cut_addLeaf _ hkept hbeyond t (t :: u :: counted)
  | nil =>
    cases beyond with
    | cons b inner =>
      -- the smaller limit is passed already, so the token is only counted there
      have heq := hbeyond (List.cons_ne_nil b inner)
      have hadd : (addOpening m ⟨keyword, OpenBracket.listTruncate m kept,
          truncateBack m kept.length (collapse nodes (b :: inner)),
          [] ++ (b :: inner).map OpenBracket.opening⟩ t).2 =
        { addLeaf ⟨keyword, OpenBracket.listTruncate m kept,
            truncateBack m kept.length (collapse nodes (b :: inner)), []⟩ t with
          excess := t :: (b :: inner).map OpenBracket.opening } := rfl
      rw [hadd]
      unfold Draft.addOpening
      dsimp only
      split
      · exact cut_addLeaf _ hkept hbeyond t _
      · split
        · rw [push]
          exact cut_opened _ heq t
        · exact cut_addLeaf _ hkept hbeyond t [t]
    | nil =>
      unfold Draft.addOpening
      simp only [List.isEmpty_nil, Bool.not_true, Bool.false_eq_true, if_false, List.map_nil,
        List.append_nil, List.nil_append, hlength]
      by_cases hroom : kept.length < m
      · rw [if_pos hroom, if_pos (Nat.lt_of_lt_of_le hroom hle), push, push]
        have hcut := Cut.intro keyword [] (opened nodes t :: kept) [] [] hroom fun h => absurd rfl h
        rw [OpenBracket.listTruncate, truncate_opened hroom] at hcut
        exact hcut
      · have heq : kept.length = m := Nat.le_antisymm hkept (Nat.le_of_not_lt hroom)
        rw [if_neg hroom]
        split
        · rw [push]
          exact cut_opened [] heq t
        · exact cut_addLeaf [] hkept hbeyond t [t]

theorem Cut.addClosing (h : Cut m d e) (t : Token) : Cut m (d.addClosing t).2 (e.addClosing t).2 := by
  obtain ⟨keyword, beyond, kept, nodes, excess, hkept, hbeyond⟩ := h
  cases excess with
  | cons u counted => exact cut_addLeaf _ hkept hbeyond t counted
  | nil =>
    cases beyond with
    | cons b inner =>
      have heq := hbeyond (List.cons_ne_nil b inner)
      have hcut := Cut.intro keyword inner kept (b.finish nodes (some t)) [] hkept fun _ => heq
      rw [truncateBack_collapse_finish heq] at hcut
      exact hcut
    | nil =>
      cases kept with
      | nil => exact cut_addLeaf [] hkept hbeyond t []
      | cons b outer =>
        have hlt : outer.length < m := hkept
        have hcut := Cut.intro keyword [] outer (b.finish nodes (some t)) [] (Nat.le_of_lt hlt)
          fun h => absurd rfl h
        rw [collapse, OpenBracket.truncateBack_finish hlt] at hcut
        exact hcut

theorem Cut.add (h : Cut m d e) (hle : m ≤ n) (t : Token) : Cut m (d.add n t).2 (e.add m t).2 := by
  unfold Draft.add
  split
  · exact h.addOpening hle t
  · exact h.addClosing t
  · obtain ⟨keyword, beyond, kept, nodes, excess, hkept, hbeyond⟩ := h
    exact cut_addLeaf _ hkept hbeyond t excess

theorem cut_start (limit : Nat) (keyword : Option Token) : Cut limit (start keyword) (start keyword) :=
  .intro keyword [] [] [] [] (Nat.zero_le limit) fun h => absurd rfl h

theorem Cut.keyword_eq (h : Cut m d e) : e.keyword = d.keyword := by
  cases h
  rfl

theorem Cut.statementClass_eq (h : Cut m d e) : e.statementClass = d.statementClass := by
  rw [statementClass, h.keyword_eq, statementClass]

theorem Cut.isOutermost_eq (h : Cut m d e) : e.isOutermost = d.isOutermost := by
  obtain ⟨keyword, beyond, kept, nodes, excess, -, -⟩ := h
  cases beyond with
  | nil => cases kept <;> simp [isOutermost, OpenBracket.listTruncate]
  | cons b inner => simp [isOutermost]

theorem Cut.endsBefore_eq (h : Cut m d e) (t : Token) (next : Option Token) :
    e.endsBefore t next = d.endsBefore t next := by
  rw [endsBefore, h.isOutermost_eq, h.statementClass_eq, endsBefore]

theorem Cut.isHeaderEnd_eq (h : Cut m d e) (t : Token) : e.isHeaderEnd t = d.isHeaderEnd t := by
  rw [isHeaderEnd, h.isOutermost_eq, h.statementClass_eq, isHeaderEnd]

theorem Cut.finish_eq (h : Cut m d e) (terminator : Option Token) :
    e.finish terminator = (d.finish terminator).truncate m := by
  obtain ⟨keyword, beyond, kept, nodes, excess, hkept, -⟩ := h
  have hcollapse := truncateBack_collapse (collapse nodes beyond) hkept
  rw [← collapse_append] at hcollapse
  have hchildren := (congrArg List.reverse hcollapse).symm.trans (List.reverse_reverse _)
  exact congrArg (fun children => Item.statement ⟨keyword, children, terminator⟩) hchildren

/-- While nothing is nested too deep under the smaller limit, the limits have no part in a statement. -/
theorem add_eq_of_shallow (hle : m ≤ n) {t : Token} (hexcess : d.excess = [])
    (h : ∀ offset, .nestedTooDeep offset m ∉ (d.add m t).1) :
    d.add m t = d.add n t ∧ (d.add m t).2.excess = [] := by
  unfold Draft.add at h ⊢
  split
  · next hkind =>
    simp only [hkind] at h
    have hroom : d.brackets.length < m := by
      refine Decidable.byContradiction fun hfull => ?_
      simp [addOpening, hexcess, hfull] at h
    simp [addOpening, hexcess, hroom, Nat.lt_of_lt_of_le hroom hle, excess_push]
  · refine ⟨rfl, ?_⟩
    unfold addClosing
    split
    · next u outer hcons => exact absurd (hcons.symm.trans hexcess) (List.cons_ne_nil u outer)
    · exact hexcess
    · exact hexcess
  · exact ⟨rfl, hexcess⟩

end Draft

namespace Progress

variable {m n : Nat} {p q : Progress}

inductive Cut (limit : Nat) : Progress → Progress → Prop
  | between : Cut limit .between .between
  | labelled (name : Token) : Cut limit (.labelled name) (.labelled name)
  | inside {d e : Draft} : d.Cut limit e → Cut limit (.inside d) (.inside e)
  | headed {d e : Draft} : d.Cut limit e → Cut limit (.headed d) (.headed e)

/-- Two results of a step: the items that the second one makes are the truncated items of the first one. -/
def CutResult (limit : Nat) (deep shallow : Assembly × Progress) : Prop :=
  shallow.1.items = deep.1.items.map (Item.truncate limit) ∧ deep.2.Cut limit shallow.2

theorem cut_enter (hle : m ≤ n) (t : Token) (next : Option Token) :
    CutResult m (enter n t next) (enter m t next) := by
  have hstart := Draft.cut_start m
  unfold enter
  split
  · exact ⟨rfl, .labelled t⟩
  · split
    · exact ⟨rfl, .between⟩
    · split
      · exact ⟨rfl, .inside ((hstart none).add hle t)⟩
      · split
        · exact ⟨rfl, .headed (hstart (some t))⟩
        · exact ⟨rfl, .inside (hstart (some t))⟩

theorem cut_ofDraft_append (hle : m ≤ n) {d e : Draft} (h : d.Cut m e) (t : Token) (next : Option Token) :
    CutResult m ((Assembly.ofDraft d none).append (enter n t next).1, (enter n t next).2)
      ((Assembly.ofDraft e none).append (enter m t next).1, (enter m t next).2) := by
  obtain ⟨hitems, hcut⟩ := cut_enter hle t next
  refine ⟨?_, hcut⟩
  simp [Assembly.append, Assembly.ofDraft, h.finish_eq, hitems]

theorem cut_ofDraft {d e : Draft} (h : d.Cut m e) (terminator : Option Token) :
    (Assembly.ofDraft e terminator).items =
      (Assembly.ofDraft d terminator).items.map (Item.truncate m) :=
  congrArg (fun item => [item]) (h.finish_eq terminator)

theorem Cut.step (h : Cut m p q) (hle : m ≤ n) (t : Token) (next : Option Token) :
    CutResult m (p.step n t next) (q.step m t next) := by
  cases h with
  | between => exact cut_enter hle t next
  | labelled name => exact ⟨rfl, .between⟩
  | @inside d e hcut =>
    simp only [Progress.step, hcut.endsBefore_eq, hcut.isHeaderEnd_eq]
    split
    · exact ⟨cut_ofDraft hcut _, .between⟩
    · split
      · exact cut_ofDraft_append hle hcut t next
      · have hadd := hcut.add hle t
        split
        · exact ⟨rfl, .headed hadd⟩
        · exact ⟨rfl, .inside hadd⟩
  | @headed d e hcut =>
    simp only [Progress.step]
    split
    · exact ⟨cut_ofDraft hcut _, .between⟩
    · exact cut_ofDraft_append hle hcut t next

theorem Cut.finish (h : Cut m p q) : q.finish.items = p.finish.items.map (Item.truncate m) := by
  cases h with
  | between => rfl
  | labelled name => rfl
  | inside hcut => exact cut_ofDraft hcut none
  | headed hcut => exact cut_ofDraft hcut none

theorem Cut.run (h : Cut m p q) (hle : m ≤ n) (ts : List Token) :
    (q.run m ts).items = (p.run n ts).items.map (Item.truncate m) := by
  induction ts generalizing p q with
  | nil => exact h.finish
  | cons t rest ih =>
    obtain ⟨hitems, hcut⟩ := h.step hle t rest.head?
    have happend : ∀ (limit : Nat) (p : Progress), (p.run limit (t :: rest)).items =
        (p.step limit t rest.head?).1.items ++ ((p.step limit t rest.head?).2.run limit rest).items :=
      fun _ _ => rfl
    rw [happend, happend, hitems, ih hcut, List.map_append]

end Progress

def Assembly.Within (limit : Nat) (a : Assembly) : Prop :=
  ∀ offset, .nestedTooDeep offset limit ∉ a.problems

theorem Assembly.Within.of_append {limit : Nat} {a b : Assembly} (h : (a.append b).Within limit) :
    a.Within limit ∧ b.Within limit :=
  ⟨fun offset ha => h offset (List.mem_append_left _ ha),
    fun offset hb => h offset (List.mem_append_right _ hb)⟩

namespace Progress

variable {m n : Nat} {p : Progress}

def Shallow : Progress → Prop
  | .inside d => d.excess = []
  | .headed d => d.excess = []
  | _ => True

theorem enter_eq_of_shallow (hle : m ≤ n) {t : Token} {next : Option Token}
    (h : (enter m t next).1.Within m) :
    enter m t next = enter n t next ∧ (enter m t next).2.Shallow := by
  unfold enter at h ⊢
  split
  · exact ⟨rfl, trivial⟩
  · next hlabel =>
    rw [if_neg hlabel] at h
    split
    · exact ⟨rfl, trivial⟩
    · next hsemicolon =>
      rw [if_neg hsemicolon] at h
      split
      · next hclass =>
        rw [if_pos hclass] at h
        obtain ⟨hadd, hexcess⟩ := Draft.add_eq_of_shallow (d := .start none) hle rfl h
        simp only [← hadd]
        exact ⟨trivial, hexcess⟩
      · split <;> exact ⟨rfl, rfl⟩

theorem step_eq_of_shallow (hle : m ≤ n) (hp : p.Shallow) {t : Token} {next : Option Token}
    (h : (p.step m t next).1.Within m) :
    p.step m t next = p.step n t next ∧ (p.step m t next).2.Shallow := by
  cases p with
  | between => exact enter_eq_of_shallow hle h
  | labelled name => exact ⟨rfl, trivial⟩
  | inside d =>
    simp only [step] at h ⊢
    split
    · exact ⟨rfl, trivial⟩
    · next hsemicolon =>
      rw [if_neg hsemicolon] at h
      split
      · next hends =>
        rw [if_pos hends] at h
        obtain ⟨henter, hshallow⟩ := enter_eq_of_shallow hle h.of_append.2
        simp only [← henter]
        exact ⟨trivial, hshallow⟩
      · next hends =>
        rw [if_neg hends] at h
        obtain ⟨hadd, hexcess⟩ := Draft.add_eq_of_shallow (d := d) hle hp h
        simp only [← hadd]
        refine ⟨trivial, ?_⟩
        split <;> exact hexcess
  | headed d =>
    simp only [step] at h ⊢
    split
    · exact ⟨rfl, trivial⟩
    · next hsemicolon =>
      rw [if_neg hsemicolon] at h
      obtain ⟨henter, hshallow⟩ := enter_eq_of_shallow hle h.of_append.2
      simp only [← henter]
      exact ⟨trivial, hshallow⟩

theorem run_eq_of_shallow (hle : m ≤ n) (hp : p.Shallow) {ts : List Token}
    (h : (p.run m ts).Within m) : p.run m ts = p.run n ts := by
  induction ts generalizing p with
  | nil => rfl
  | cons t rest ih =>
    have happend : ∀ limit, p.run limit (t :: rest) = (p.step limit t rest.head?).1.append
        ((p.step limit t rest.head?).2.run limit rest) := fun _ => rfl
    rw [happend] at h
    obtain ⟨heq, hshallow⟩ := step_eq_of_shallow hle hp h.of_append.1
    rw [happend, happend, ih hshallow h.of_append.2, heq]

end Progress

theorem effectiveDepth_le_effectiveDepth {m n : Nat} (h : m ≤ n) : effectiveDepth m ≤ effectiveDepth n := by
  unfold effectiveDepth
  omega

/-- The items under a smaller limit are those under a greater one, truncated. -/
theorem items_assemble_truncate {m n : Nat} (h : m ≤ n) (ts : List Token) :
    (assemble m ts).items = (assemble n ts).items.map (Item.truncate (effectiveDepth m)) :=
  Progress.Cut.between.run (effectiveDepth_le_effectiveDepth h) ts

theorem assemble_eq_of_within {m n : Nat} (hle : m ≤ n) {ts : List Token}
    (h : (assemble m ts).Within (effectiveDepth m)) : assemble m ts = assemble n ts :=
  Progress.run_eq_of_shallow (p := .between) (effectiveDepth_le_effectiveDepth hle) trivial h

end LoadScript
