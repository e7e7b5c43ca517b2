import LoadScript.Tree.Assembly

/-!
The problems of an assembly are those of counting parentheses. A scan that keeps only a stack of the open
parentheses, and looks at nothing but parentheses and semicolons, meets the same problems in the same order as
the assembly of items: where statements begin and end and what stands in front of a parenthesis does not matter.
-/

set_option autoImplicit false
set_option relaxedAutoImplicit false

namespace LoadScript

namespace ParenScan

/-- The problems of an end with some parentheses open, innermost first: each is unmatched, but for those with
more others around it than the limit. -/
def atEnd (limit : Nat) : List Nat → List Problem
  | [] => []
  | offset :: below =>
    (if below.length ≤ limit then [.unmatchedOpen offset] else []) ++ atEnd limit below

def step (limit : Nat) (opens : List Nat) (t : Token) : List Problem × List Nat :=
  match t.kind, opens with
  | .leftParen, _ =>
    (if opens.length = limit then [.nestedTooDeep t.span.start limit] else [],
      t.span.start :: opens)
  | .rightParen, [] => ([.unmatchedClose t.span.start], [])
  | .rightParen, _ :: below => ([], below)
  | .semicolon, _ => (atEnd limit opens, [])
  | _, _ => ([], opens)

def run (limit : Nat) (opens : List Nat) : List Token → List Problem
  | [] => atEnd limit opens
  | t :: rest => (step limit opens t).1 ++ run limit (step limit opens t).2 rest

/-- Holds of the tokens that a scan of parentheses looks at. -/
def heeds (t : Token) : Bool :=
  t.kind == .leftParen || t.kind == .rightParen || t.kind == .semicolon

variable {limit : Nat} {opens : List Nat} {t : Token}

theorem step_leftParen (h : t.kind = .leftParen) : step limit opens t =
    (if opens.length = limit then [.nestedTooDeep t.span.start limit] else [],
      t.span.start :: opens) := by
  simp [step, h]

theorem step_rightParen_nil (h : t.kind = .rightParen) :
    step limit [] t = ([.unmatchedClose t.span.start], []) := by
  simp [step, h]

theorem step_rightParen_cons (h : t.kind = .rightParen) (offset : Nat) :
    step limit (offset :: opens) t = ([], opens) := by
  simp [step, h]

theorem step_semicolon (h : t.kind = .semicolon) :
    step limit opens t = (atEnd limit opens, []) := by
  simp [step, h]

theorem step_of_not_heeds (h : heeds t = false) : step limit opens t = ([], opens) := by
  simp only [heeds, Bool.or_eq_false_iff, beq_eq_false_iff_ne] at h
  obtain ⟨⟨hleft, hright⟩, hsemicolon⟩ := h
  unfold step
  split
  · next hkind => exact absurd hkind hleft
  · next hkind => exact absurd hkind hright
  · next hkind => exact absurd hkind hright
  · next hkind => exact absurd hkind hsemicolon
  · rfl

theorem not_heeds_of_role? {role : Role} (h : t.role? = some role) : heeds t = false := by
  unfold Token.role? at h
  split at h
  · next hkind => simp [heeds, hkind]
  · exact absurd h (Option.some_ne_none role).symm

theorem run_filter_heeds (limit : Nat) (opens : List Nat) (tokens : List Token) :
    run limit opens (tokens.filter heeds) = run limit opens tokens := by
  induction tokens generalizing opens with
  | nil => rfl
  | cons t rest ih =>
    by_cases h : heeds t = true
    · rw [List.filter_cons_of_pos h, run, run, ih]
    · rw [List.filter_cons_of_neg h, ih, run, step_of_not_heeds (Bool.eq_false_iff.2 h),
        List.nil_append]

theorem atEnd_of_length_le (h : opens.length ≤ limit) :
    atEnd limit opens = opens.map .unmatchedOpen := by
  induction opens with
  | nil => rfl
  | cons offset below ih =>
    have hbelow : below.length ≤ limit := Nat.le_of_succ_le h
    rw [atEnd, if_pos hbelow, ih hbelow]
    rfl

/-- Of the parentheses beyond the limit only the outermost counts at an end. -/
theorem atEnd_append {extra : List Nat} (hextra : extra ≠ []) (h : opens.length = limit) :
    atEnd limit (extra ++ opens) = (extra.getLast?.toList ++ opens).map .unmatchedOpen := by
  induction extra with
  | nil => exact absurd rfl hextra
  | cons offset inner ih =>
    rw [List.cons_append, atEnd]
    cases inner with
    | nil =>
      rw [List.nil_append, if_pos (Nat.le_of_eq h), atEnd_of_length_le (Nat.le_of_eq h)]
      rfl
    | cons next more =>
      have hlong : ¬((next :: more ++ opens).length ≤ limit) := by
        simp only [List.length_append, List.length_cons]
        omega
      rw [if_neg hlong, ih (List.cons_ne_nil next more), List.nil_append, List.getLast?_cons_cons]

end ParenScan

namespace Draft

def opens (d : Draft) : List Nat :=
  (d.excess ++ d.brackets.map OpenBracket.opening).map fun t => t.span.start

/-- Holds if parentheses are kept flat only beyond a limit. -/
structure Fits (limit : Nat) (d : Draft) : Prop where
  length_le : d.brackets.length ≤ limit
  length_eq : d.excess ≠ [] → d.brackets.length = limit

theorem fits_start (limit : Nat) (keyword : Option Token) : (start keyword).Fits limit where
  length_le := Nat.zero_le limit
  length_eq := fun h => absurd rfl h

theorem opens_eq_nil_of_isOutermost {d : Draft} (h : d.isOutermost = true) : d.opens = [] := by
  simp only [isOutermost, Bool.and_eq_true, List.isEmpty_iff] at h
  simp [opens, h]

theorem isOutermost_of_endsBefore {d : Draft} {t : Token} {next : Option Token} (h : d.endsBefore t next = true) :
    d.isOutermost = true := by
  simp only [endsBefore, Bool.and_eq_true] at h
  exact h.1.1

theorem unclosed_eq_atEnd {limit : Nat} {d : Draft} (h : d.Fits limit) :
    d.unclosed = ParenScan.atEnd limit d.opens := by
  have hlength : (d.brackets.map OpenBracket.opening).length = d.brackets.length := List.length_map _
  rw [opens, List.map_append]
  cases hexcess : d.excess with
  | nil =>
    rw [List.map_nil, List.nil_append, ParenScan.atEnd_of_length_le]
    · simp [unclosed, hexcess]
    · simpa using h.length_le
  | cons t outer =>
    rw [ParenScan.atEnd_append]
    · rw [unclosed, hexcess, List.getLast?_map, Option.toList_map, ← List.map_append, List.map_map]
      rfl
    · simp
    · simpa using h.length_eq (by simp [hexcess])

theorem opens_push (d : Draft) (t : Token) :
    (d.push t).opens = (d.excess ++ t :: d.brackets.map OpenBracket.opening).map
      fun t => t.span.start := by
  simp [opens]

theorem length_opens (d : Draft) : d.opens.length = d.excess.length + d.brackets.length := by
  simp [opens]

theorem addOpening_eq_step {limit : Nat} {d : Draft} (h : d.Fits limit) {t : Token}
    (ht : t.kind = .leftParen) :
    (d.addOpening limit t).1 = (ParenScan.step limit d.opens t).1 ∧
      (d.addOpening limit t).2.opens = (ParenScan.step limit d.opens t).2 ∧
      (d.addOpening limit t).2.Fits limit := by
  rw [ParenScan.step_leftParen ht, length_opens]
  unfold addOpening
  split
  · next hexcess =>
    -- beyond the limit already, where the outermost parenthesis has been reported
    have hne : d.excess ≠ [] := by simpa using hexcess
    have hlength := h.length_eq hne
    have hpos := List.length_pos_iff.2 hne
    refine ⟨?_, rfl, ?_⟩
    · rw [if_neg (by omega)]
    · exact ⟨h.length_le, fun _ => hlength⟩
  · next hexcess =>
    have hnil : d.excess = [] := by simpa using hexcess
    split
    · next hlt =>
      refine ⟨?_, ?_, ?_⟩
      · rw [if_neg]
        simp only [hnil, List.length_nil]
        omega
      · rw [opens_push, opens, hnil]
        rfl
      · refine ⟨?_, ?_⟩
        · rw [brackets_push, List.length_cons]
          exact hlt
        · intro hne
          rw [excess_push] at hne
          exact absurd hnil hne
    · next hge =>
      have hle := h.length_le
      refine ⟨?_, ?_, ?_⟩
      · rw [if_pos]
        simp only [hnil, List.length_nil]
        omega
      · rw [opens, opens, hnil]
        rfl
      · refine ⟨hle, fun _ => ?_⟩
        exact Nat.le_antisymm hle (Nat.le_of_not_lt hge)

theorem addClosing_eq_step {limit : Nat} {d : Draft} (h : d.Fits limit) {t : Token}
    (ht : t.kind = .rightParen) :
    (d.addClosing t).1 = (ParenScan.step limit d.opens t).1 ∧
      (d.addClosing t).2.opens = (ParenScan.step limit d.opens t).2 ∧
      (d.addClosing t).2.Fits limit := by
  cases hexcess : d.excess with
  | cons u outer =>
    have hadd : d.addClosing t = ([], { d.addLeaf t with excess := outer }) := by
      simp [addClosing, hexcess]
    have hopens : d.opens = u.span.start ::
        (outer ++ d.brackets.map OpenBracket.opening).map fun t => t.span.start := by
      rw [opens, hexcess]
      rfl
    rw [hadd, hopens, ParenScan.step_rightParen_cons ht]
    exact ⟨rfl, rfl, h.length_le, fun _ => h.length_eq (by simp [hexcess])⟩
  | nil =>
    cases hbrackets : d.brackets with
    | cons b outer =>
      have hadd : d.addClosing t =
          ([], { d with brackets := outer, nodes := b.finish d.nodes (some t) }) := by
        simp [addClosing, hexcess, hbrackets]
      have hopens : d.opens = b.opening.span.start ::
          (outer.map OpenBracket.opening).map fun t => t.span.start := by
        rw [opens, hexcess, hbrackets]
        rfl
      have hle := h.length_le
      rw [hbrackets, List.length_cons] at hle
      rw [hadd, hopens, ParenScan.step_rightParen_cons ht]
      refine ⟨rfl, ?_, Nat.le_of_succ_le hle, fun hne => absurd hexcess hne⟩
      rw [opens, hexcess]
      rfl
    | nil =>
      have hadd : d.addClosing t = ([.unmatchedClose t.span.start], d.addLeaf t) := by
        simp [addClosing, hexcess, hbrackets]
      have hopens : d.opens = [] := by
        rw [opens, hexcess, hbrackets]
        rfl
      rw [hadd, hopens, ParenScan.step_rightParen_nil ht]
      exact ⟨rfl, hopens, h.length_le, h.length_eq⟩

theorem add_eq_step {limit : Nat} {d : Draft} (h : d.Fits limit) {t : Token}
    (ht : t.kind ≠ .semicolon) :
    (d.add limit t).1 = (ParenScan.step limit d.opens t).1 ∧
      (d.add limit t).2.opens = (ParenScan.step limit d.opens t).2 ∧
      (d.add limit t).2.Fits limit := by
  unfold add
  split
  · next hkind => exact addOpening_eq_step h hkind
  · next hkind => exact addClosing_eq_step h hkind
  · next hleft hright =>
    have hheeds : ParenScan.heeds t = false := by
      simp only [ParenScan.heeds, Bool.or_eq_false_iff, beq_eq_false_iff_ne]
      exact ⟨⟨hleft, hright⟩, ht⟩
    rw [ParenScan.step_of_not_heeds hheeds]
    exact ⟨rfl, rfl, h.length_le, h.length_eq⟩

end Draft

@[simp]
theorem Assembly.problems_append (a b : Assembly) :
    (a.append b).problems = a.problems ++ b.problems :=
  rfl

theorem Assembly.problems_ofDraft {limit : Nat} {d : Draft} (h : d.Fits limit)
    (terminator : Option Token) :
    (ofDraft d terminator).problems = ParenScan.atEnd limit d.opens :=
  Draft.unclosed_eq_atEnd h

namespace Progress

/-- Holds if an assembly in front of some tokens has the given parentheses open. -/
def Tracks (limit : Nat) (opens : List Nat) (tokens : List Token) : Progress → Prop
  | .between => opens = []
  | .labelled _ => opens = [] ∧ (tokens.head?.any fun t => t.kind == .colon) = true
  | .inside d => opens = d.opens ∧ d.Fits limit
  | .headed d => opens = [] ∧ d.opens = [] ∧ d.Fits limit

def Agrees (limit : Nat) (tokens : List Token) (made : Assembly × Progress)
    (found : List Problem × List Nat) : Prop :=
  made.1.problems = found.1 ∧ made.2.Tracks limit found.2 tokens

theorem agrees_enter (limit : Nat) (t : Token) (rest : List Token) :
    Agrees limit rest (enter limit t rest.head?) (ParenScan.step limit [] t) := by
  have hfits := Draft.fits_start limit
  unfold enter
  split
  · next hlabel =>
    have hheeds : ParenScan.heeds t = false := by
      cases hkind : t.kind <;> simp_all [TokenKind.isName, ParenScan.heeds]
    rw [ParenScan.step_of_not_heeds hheeds]
    exact ⟨rfl, rfl, hlabel.2⟩
  · split
    · next hsemicolon =>
      rw [ParenScan.step_semicolon hsemicolon]
      exact ⟨rfl, rfl⟩
    · next hsemicolon =>
      split
      · obtain ⟨hproblems, hopens, hadd⟩ := Draft.add_eq_step (hfits none) hsemicolon
        exact ⟨hproblems, hopens.symm, hadd⟩
      · next hclass =>
        have hheeds : ParenScan.heeds t = false := by
          cases hkind : t.kind <;> simp_all [TokenKind.statementClass, ParenScan.heeds]
        rw [ParenScan.step_of_not_heeds hheeds]
        split
        · exact ⟨rfl, rfl, rfl, hfits (some t)⟩
        · exact ⟨rfl, rfl, hfits (some t)⟩

theorem agrees_ofDraft_append {limit : Nat} {d : Draft} (h : d.Fits limit) (hopens : d.opens = [])
    (t : Token) (rest : List Token) :
    Agrees limit rest
      ((Assembly.ofDraft d none).append (enter limit t rest.head?).1, (enter limit t rest.head?).2)
      (ParenScan.step limit [] t) := by
  obtain ⟨hproblems, htracks⟩ := agrees_enter limit t rest
  refine ⟨?_, htracks⟩
  rw [Assembly.problems_append, Assembly.problems_ofDraft h, hopens, hproblems]
  rfl

theorem agrees_add {limit : Nat} {d : Draft} (h : d.Fits limit) {t : Token} (ht : t.kind ≠ .semicolon)
    (rest : List Token) :
    Agrees limit rest
      (⟨[], (d.add limit t).1⟩,
        if d.isHeaderEnd t then headed (d.add limit t).2 else inside (d.add limit t).2)
      (ParenScan.step limit d.opens t) := by
  obtain ⟨hproblems, hopens, hadd⟩ := Draft.add_eq_step h ht
  split
  · next hheader =>
    -- a keyword that ends a header is no parenthesis, so none is open behind it either
    simp only [Draft.isHeaderEnd, Bool.and_eq_true, beq_iff_eq] at hheader
    obtain ⟨⟨houtermost, -⟩, hrole⟩ := hheader
    have hnone : ParenScan.step limit d.opens t = ([], d.opens) :=
      ParenScan.step_of_not_heeds (ParenScan.not_heeds_of_role? hrole)
    have hnil := Draft.opens_eq_nil_of_isOutermost houtermost
    rw [hnone] at hproblems hopens ⊢
    exact ⟨hproblems, hnil, hopens.trans hnil, hadd⟩
  · exact ⟨hproblems, hopens.symm, hadd⟩

/-- A step of the assembly and a step of the scan of parentheses stay in agreement. -/
theorem agrees_step {limit : Nat} {opens : List Nat} {t : Token} {rest : List Token} {p : Progress}
    (h : p.Tracks limit opens (t :: rest)) :
    Agrees limit rest (p.step limit t rest.head?) (ParenScan.step limit opens t) := by
  cases p with
  | between =>
    obtain rfl : opens = [] := h
    exact agrees_enter limit t rest
  | labelled name =>
    -- the label was entered because of this colon, which the scan passes over
    obtain ⟨rfl, hcolon⟩ := h
    have hheeds : ParenScan.heeds t = false := by
      have hkind : t.kind = .colon := by simpa using hcolon
      simp [ParenScan.heeds, hkind]
    rw [ParenScan.step_of_not_heeds hheeds]
    exact ⟨rfl, rfl⟩
  | inside d =>
    obtain ⟨rfl, hfits⟩ := h
    simp only [step]
    split
    · next hsemicolon =>
      rw [ParenScan.step_semicolon hsemicolon]
      exact ⟨Assembly.problems_ofDraft hfits _, rfl⟩
    · next hsemicolon =>
      split
      · next hends =>
        -- a statement ends early only outside all parentheses, so nothing is unmatched here
        have hopens := Draft.opens_eq_nil_of_isOutermost (Draft.isOutermost_of_endsBefore hends)
        rw [hopens]
        exact agrees_ofDraft_append hfits hopens t rest
      · exact agrees_add hfits hsemicolon rest
  | headed d =>
    obtain ⟨rfl, hopens, hfits⟩ := h
    simp only [step]
    split
    · next hsemicolon =>
      rw [ParenScan.step_semicolon hsemicolon, ← hopens]
      exact ⟨Assembly.problems_ofDraft hfits _, hopens⟩
    · exact agrees_ofDraft_append hfits hopens t rest

theorem problems_finish {limit : Nat} {opens : List Nat} {p : Progress}
    (h : p.Tracks limit opens []) : p.finish.problems = ParenScan.atEnd limit opens := by
  cases p with
  | between =>
    obtain rfl : opens = [] := h
    rfl
  | labelled name => simp [Tracks] at h
  | inside d =>
    obtain ⟨rfl, hfits⟩ := h
    exact Assembly.problems_ofDraft hfits none
  | headed d =>
    obtain ⟨rfl, hopens, hfits⟩ := h
    rw [← hopens]
    exact Assembly.problems_ofDraft hfits none

theorem problems_run {limit : Nat} {opens : List Nat} {tokens : List Token} {p : Progress}
    (h : p.Tracks limit opens tokens) :
    (p.run limit tokens).problems = ParenScan.run limit opens tokens := by
  induction tokens generalizing opens p with
  | nil => exact problems_finish h
  | cons t rest ih =>
    obtain ⟨hproblems, htracks⟩ := agrees_step h
    rw [run, Assembly.problems_append, hproblems, ih htracks]
    rfl

end Progress

/-- The problems of an assembly are those of the scan of parentheses under the limit in force, so no token but
parentheses and semicolons matters to them. -/
theorem problems_assemble_eq_run (limit : Nat) (tokens : List Token) :
    (assemble limit tokens).problems = ParenScan.run (min limit 256) [] tokens ∧
      (assemble limit tokens).problems =
        (assemble limit (tokens.filter ParenScan.heeds)).problems := by
  have hrun : ∀ ts, (assemble limit ts).problems = ParenScan.run (min limit 256) [] ts :=
    fun ts => Progress.problems_run (p := .between) rfl
  refine ⟨hrun tokens, ?_⟩
  rw [hrun, hrun, ParenScan.run_filter_heeds]

end LoadScript
