import LoadScript.Document
import LoadScript.Proofs.Scan.Tiling

/-!
Assembly loses no token. At every moment the tokens of the finished items together with those of the item in
progress are the tokens read so far, in their order. So the items of a token list hold exactly that list, and
a script can be read back from its tree.
-/

set_option autoImplicit false
set_option relaxedAutoImplicit false

namespace LoadScript

namespace Node

@[simp]
theorem listTokens_append (front back : List Node) :
    listTokens (front ++ back) = listTokens front ++ listTokens back := by
  induction front with
  | nil => simp [listTokens]
  | cons node rest ih => simp [listTokens, ih]

@[simp]
theorem tokens_leaf (t : Token) : (leaf t).tokens = [t] := by
  rw [tokens]

@[simp]
theorem listTokens_singleton (node : Node) : listTokens [node] = node.tokens := by
  simp [listTokens]

theorem tokens_ne_nil (node : Node) : node.tokens ≠ [] := by
  cases node <;> simp [tokens]

theorem eq_nil_of_listTokens_eq_nil {nodes : List Node} (h : listTokens nodes = []) : nodes = [] := by
  cases nodes with
  | nil => rfl
  | cons node rest =>
    rw [listTokens] at h
    exact absurd (List.append_eq_nil_iff.1 h).1 node.tokens_ne_nil

end Node

/-- The tokens in front of an open parenthesis on its level, and the parenthesis itself. -/
def OpenBracket.tokens (b : OpenBracket) : List Token :=
  Node.listTokens b.before.reverse ++ b.name.toList ++ [b.opening]

namespace Draft

def tokens (d : Draft) : List Token :=
  d.keyword.toList ++ d.brackets.reverse.flatMap OpenBracket.tokens ++
    Node.listTokens d.nodes.reverse

@[simp]
theorem tokens_start (keyword : Option Token) : (start keyword).tokens = keyword.toList := by
  simp [start, tokens, Node.listTokens]

@[simp]
theorem tokens_addLeaf (d : Draft) (t : Token) : (d.addLeaf t).tokens = d.tokens ++ [t] := by
  simp [addLeaf, tokens]

theorem tokens_opened (nodes : List Node) (t : Token) :
    (opened nodes t).tokens = Node.listTokens nodes.reverse ++ [t] := by
  unfold opened
  split
  · split <;> simp [OpenBracket.tokens]
  · simp [OpenBracket.tokens]

theorem tokens_push (d : Draft) (t : Token) : (d.push t).tokens = d.tokens ++ [t] := by
  simp [push, tokens, tokens_opened, Node.listTokens]

theorem tokens_addOpening (limit : Nat) (d : Draft) (t : Token) :
    (d.addOpening limit t).2.tokens = d.tokens ++ [t] := by
  unfold addOpening
  split
  · exact tokens_addLeaf d t
  · split
    · exact tokens_push d t
    · exact tokens_addLeaf d t

theorem tokens_addClosing (d : Draft) (t : Token) :
    (d.addClosing t).2.tokens = d.tokens ++ [t] := by
  unfold addClosing
  split
  · exact tokens_addLeaf d t
  · next b outer _ hbrackets =>
    simp [tokens, hbrackets, OpenBracket.finish, OpenBracket.tokens, Node.tokens]
  · exact tokens_addLeaf d t

theorem tokens_add (limit : Nat) (d : Draft) (t : Token) :
    (d.add limit t).2.tokens = d.tokens ++ [t] := by
  unfold add
  split
  · exact tokens_addOpening limit d t
  · exact tokens_addClosing d t
  · exact tokens_addLeaf d t

theorem listTokens_collapse (nodes : List Node) (brackets : List OpenBracket) :
    Node.listTokens (collapse nodes brackets).reverse =
      brackets.reverse.flatMap OpenBracket.tokens ++ Node.listTokens nodes.reverse := by
  induction brackets generalizing nodes with
  | nil => simp [collapse]
  | cons b outer ih => simp [collapse, ih, OpenBracket.finish, OpenBracket.tokens, Node.tokens]

theorem tokens_finish (d : Draft) (terminator : Option Token) :
    (d.finish terminator).tokens = d.tokens ++ terminator.toList := by
  simp [finish, Item.tokens, Statement.tokens, tokens, listTokens_collapse]

end Draft

def Assembly.tokens (a : Assembly) : List Token :=
  a.items.flatMap Item.tokens

namespace Assembly

@[simp]
theorem tokens_empty : empty.tokens = [] :=
  rfl

@[simp]
theorem tokens_append (a b : Assembly) : (a.append b).tokens = a.tokens ++ b.tokens := by
  simp [append, tokens]

@[simp]
theorem tokens_ofDraft (d : Draft) (terminator : Option Token) :
    (ofDraft d terminator).tokens = d.tokens ++ terminator.toList := by
  simp [ofDraft, tokens, Draft.tokens_finish]

end Assembly

namespace Progress

def pending : Progress → List Token
  | .between => []
  | .labelled name => [name]
  | .inside d => d.tokens
  | .headed d => d.tokens

@[simp]
theorem pending_between : between.pending = [] :=
  rfl

@[simp]
theorem pending_inside (d : Draft) : (inside d).pending = d.tokens :=
  rfl

@[simp]
theorem pending_headed (d : Draft) : (headed d).pending = d.tokens :=
  rfl

theorem tokens_enter (limit : Nat) (t : Token) (next : Option Token) :
    (enter limit t next).1.tokens ++ (enter limit t next).2.pending = [t] := by
  unfold enter
  split
  · rfl
  · split
    · simp
    · split
      · simp [Assembly.tokens, Draft.tokens_add]
      · split
        · simp
        · simp

theorem tokens_step (limit : Nat) (p : Progress) (t : Token) (next : Option Token) :
    (p.step limit t next).1.tokens ++ (p.step limit t next).2.pending = p.pending ++ [t] := by
  cases p with
  | between => exact tokens_enter limit t next
  | labelled name => rfl
  | inside d =>
    simp only [step]
    split
    · simp
    · split
      · simp [tokens_enter]
      · split <;> simp [Assembly.tokens, Draft.tokens_add]
  | headed d =>
    simp only [step]
    split
    · simp
    · simp [tokens_enter]

theorem tokens_finish (p : Progress) : p.finish.tokens = p.pending := by
  cases p <;> simp [finish, pending]

theorem tokens_run (limit : Nat) (p : Progress) (tokens : List Token) :
    (p.run limit tokens).tokens = p.pending ++ tokens := by
  induction tokens generalizing p with
  | nil => rw [run, tokens_finish, List.append_nil]
  | cons t rest ih =>
    rw [run, Assembly.tokens_append, ih, ← List.append_assoc, tokens_step, List.append_assoc,
      List.singleton_append]

/-- Holds unless a statement is in progress of which no token is read. -/
def Begun : Progress → Prop
  | .inside d => d.tokens ≠ []
  | .headed d => d.tokens ≠ []
  | _ => True

theorem begun_enter (limit : Nat) (t : Token) (next : Option Token) :
    (enter limit t next).2.Begun := by
  unfold enter
  split
  · trivial
  · split
    · trivial
    · split
      · simp [Begun, Draft.tokens_add]
      · split <;> simp [Begun]

theorem begun_step (limit : Nat) (p : Progress) (t : Token) (next : Option Token) :
    (p.step limit t next).2.Begun := by
  cases p with
  | between => exact begun_enter limit t next
  | labelled name => trivial
  | inside d =>
    simp only [step]
    split
    · trivial
    · split
      · exact begun_enter limit t next
      · split <;> simp [Begun, Draft.tokens_add]
  | headed d =>
    simp only [step]
    split
    · trivial
    · exact begun_enter limit t next

end Progress

namespace Assembly

def Solid (a : Assembly) : Prop :=
  ∀ item ∈ a.items, item.tokens ≠ []

theorem solid_empty : empty.Solid := by
  simp [Solid, empty]

theorem Solid.append {a b : Assembly} (ha : a.Solid) (hb : b.Solid) : (a.append b).Solid := by
  intro item hitem
  rcases List.mem_append.1 hitem with hitem | hitem
  · exact ha item hitem
  · exact hb item hitem

theorem solid_ofDraft {d : Draft} {terminator : Option Token}
    (h : d.tokens ++ terminator.toList ≠ []) : (ofDraft d terminator).Solid := by
  intro item hitem
  obtain rfl := List.mem_singleton.1 hitem
  rwa [Draft.tokens_finish]

end Assembly

namespace Progress

open Assembly (Solid solid_empty solid_ofDraft)

theorem solid_enter (limit : Nat) (t : Token) (next : Option Token) :
    (enter limit t next).1.Solid := by
  unfold enter
  split
  · exact solid_empty
  · split
    · exact solid_ofDraft (by simp)
    · split
      · exact solid_empty
      · split <;> exact solid_empty

theorem solid_step {p : Progress} (h : p.Begun) (limit : Nat) (t : Token) (next : Option Token) :
    (p.step limit t next).1.Solid := by
  cases p with
  | between => exact solid_enter limit t next
  | labelled name =>
    intro item hitem
    obtain rfl := List.mem_singleton.1 hitem
    simp [Item.tokens]
  | inside d =>
    simp only [step]
    split
    · exact solid_ofDraft (by simp)
    · split
      · exact (solid_ofDraft (by simpa [Begun] using h)).append (solid_enter limit t next)
      · exact solid_empty
  | headed d =>
    simp only [step]
    split
    · exact solid_ofDraft (by simp)
    · exact (solid_ofDraft (by simpa [Begun] using h)).append (solid_enter limit t next)

theorem solid_finish {p : Progress} (h : p.Begun) : p.finish.Solid := by
  cases p with
  | between => exact solid_empty
  | labelled name => exact solid_ofDraft (by simp)
  | inside d => exact solid_ofDraft (by simpa [Begun] using h)
  | headed d => exact solid_ofDraft (by simpa [Begun] using h)

theorem solid_run {p : Progress} (h : p.Begun) (limit : Nat) (tokens : List Token) :
    (p.run limit tokens).Solid := by
  induction tokens generalizing p with
  | nil => exact solid_finish h
  | cons t rest ih => exact (solid_step h limit t _).append (ih (begun_step limit p t _))

end Progress

theorem tokens_assemble (limit : Nat) (tokens : List Token) :
    (assemble limit tokens).items.flatMap Item.tokens = tokens :=
  Progress.tokens_run (effectiveDepth limit) .between tokens

/-- The items of a token list hold exactly its tokens, none of them is empty, and the source of a script can be
read back from its tree. -/
theorem assembly_conserves_tokens (limit : Nat) (tokens : List Token) (v : Vocabulary)
    (source : List Char) :
    (assemble limit tokens).items.flatMap Item.tokens = tokens ∧
      (∀ item ∈ (assemble limit tokens).items, item.tokens ≠ []) ∧
      (readScript v limit source).document.source = String.ofList source := by
  refine ⟨tokens_assemble limit tokens, Progress.solid_run (p := .between) trivial _ tokens, ?_⟩
  rw [← source_scan v source, Document.source, Scan.source, Document.tokens, readScript,
    tokens_assemble]

end LoadScript
