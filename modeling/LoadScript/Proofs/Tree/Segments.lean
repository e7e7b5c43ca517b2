import LoadScript.Proofs.Tree.Conservation
import LoadScript.Proofs.Tree.ParenScan

/-!
Items are slices of the token list that a flat reading finds. The reading goes from left to right with no more
than the balance of parentheses inside the item at hand; it knows neither groups nor calls nor the nesting limit.
The items of an assembly are its segments, so the limit has no part in where items begin and end.
-/

set_option autoImplicit false
set_option relaxedAutoImplicit false

namespace LoadScript

/-- An item as the slice of the token list that it is made of. -/
inductive Segment where
  | label (name colon : Token)
  | statement (statementClass : StatementClass) (keyword : Option Token) (body : List Token)
      (terminator : Option Token)

namespace Segment

def tokens : Segment → List Token
  | .label name colon => [name, colon]
  | .statement _ keyword body terminator => keyword.toList ++ body ++ terminator.toList

/-- The parentheses open behind a token; a closing one that closes nothing does not count. -/
def balanceAfter (balance : Nat) (t : Token) : Nat :=
  match t.kind with
  | .leftParen => balance + 1
  | .rightParen => balance - 1
  | _ => balance

def colon? (t : Token) (rest : List Token) : Option Token :=
  rest.head?.filter fun next => t.kind.isName && next.kind == .colon

/-- The rest of the statement in front of its semicolon, and the tokens behind that. Only a control statement can
end before its semicolon, and only outside all parentheses. -/
def body (c : StatementClass) (balance : Nat) : List Token → List Token × List Token
  | [] => ([], [])
  | t :: rest =>
    if t.kind = .semicolon then ([], t :: rest)
    else if c = .control ∧ balance = 0 ∧ (t.role? = some .leader ∨ (colon? t rest).isSome) then
      ([], t :: rest)
    else if c = .control ∧ balance = 0 ∧ t.role? = some .headerEnd then ([t], rest)
    else
      let (inside, after) := body c (balanceAfter balance t) rest
      (t :: inside, after)

/-- A statement with a semicolon that stands directly behind it, and the tokens behind both. -/
def close (c : StatementClass) (keyword : Option Token) (inside : List Token) :
    List Token → Segment × List Token
  | [] => (.statement c keyword inside none, [])
  | t :: rest =>
    if t.kind = .semicolon then (.statement c keyword inside (some t), rest)
    else (.statement c keyword inside none, t :: rest)

def front (t : Token) (rest : List Token) : Segment × List Token :=
  match colon? t rest with
  | some colon => (.label t colon, rest.tail)
  | none =>
    let c := t.kind.statementClass
    if t.kind = .semicolon then (.statement .expression none [] (some t), rest)
    else if c = .expression then
      let (inside, after) := body .expression (balanceAfter 0 t) rest
      close .expression none (t :: inside) after
    else if t.role? = some .headerEnd then close c (some t) [] rest
    else
      let (inside, after) := body c 0 rest
      close c (some t) inside after

theorem colon?_eq_some_iff {t colon : Token} {rest : List Token} :
    colon? t rest = some colon ↔
      rest.head? = some colon ∧ t.kind.isName = true ∧ colon.kind = .colon := by
  rw [colon?, Option.filter_eq_some_iff, Bool.and_eq_true, beq_iff_eq]

theorem isSome_colon? (t : Token) (rest : List Token) :
    (colon? t rest).isSome = (t.kind.isName && rest.head?.any fun next => next.kind == .colon) := by
  rw [colon?, Option.isSome_filter]
  cases rest.head? with
  | none => rw [Option.any_none, Option.any_none, Bool.and_false]
  | some next => rfl

theorem tokens_body (c : StatementClass) (balance : Nat) (ts : List Token) :
    (body c balance ts).1 ++ (body c balance ts).2 = ts := by
  induction ts generalizing balance with
  | nil => rfl
  | cons t rest ih =>
    rw [body]
    split
    · rfl
    · split
      · rfl
      · split
        · rfl
        · exact congrArg (List.cons t) (ih _)

theorem close_cons_of_semicolon {t : Token} (h : t.kind = .semicolon) (c : StatementClass)
    (keyword : Option Token) (inside rest : List Token) :
    close c keyword inside (t :: rest) = (.statement c keyword inside (some t), rest) :=
  if_pos h

theorem close_cons_of_ne {t : Token} (h : t.kind ≠ .semicolon) (c : StatementClass)
    (keyword : Option Token) (inside rest : List Token) :
    close c keyword inside (t :: rest) = (.statement c keyword inside none, t :: rest) :=
  if_neg h

theorem tokens_close (c : StatementClass) (keyword : Option Token) (inside ts : List Token) :
    (close c keyword inside ts).1.tokens ++ (close c keyword inside ts).2 =
      keyword.toList ++ inside ++ ts := by
  cases ts with
  | nil => simp [close, tokens]
  | cons t rest =>
    rw [close]
    split <;> simp [tokens]

theorem tokens_front (t : Token) (rest : List Token) :
    (front t rest).1.tokens ++ (front t rest).2 = t :: rest := by
  unfold front
  split
  · next colon hcolon =>
    obtain ⟨hhead, -, -⟩ := colon?_eq_some_iff.1 hcolon
    obtain ⟨back, rfl⟩ := List.head?_eq_some_iff.1 hhead
    rfl
  · simp only
    split
    · rfl
    · split
      · rw [tokens_close]
        simp [tokens_body]
      · split
        · rw [tokens_close]
          rfl
        · rw [tokens_close, List.append_assoc, tokens_body]
          rfl

theorem tokens_front_ne_nil (t : Token) (rest : List Token) : (front t rest).1.tokens ≠ [] := by
  have hclose : ∀ (c : StatementClass) (keyword : Option Token) (inside ts : List Token),
      keyword.toList ++ inside ≠ [] → (close c keyword inside ts).1.tokens ≠ [] := by
    intro c keyword inside ts h
    cases ts with
    | nil => simpa [close, tokens] using h
    | cons u more =>
      rw [close]
      split <;> simp_all [tokens]
  unfold front
  split
  · simp [tokens]
  · simp only
    split
    · simp [tokens]
    · split
      · exact hclose _ _ _ _ (by simp)
      · split <;> exact hclose _ _ _ _ (by simp)

theorem length_front_lt (t : Token) (rest : List Token) :
    (front t rest).2.length < (t :: rest).length := by
  have hlength := congrArg List.length (tokens_front t rest)
  have hpos := List.length_pos_iff.2 (tokens_front_ne_nil t rest)
  rw [List.length_append] at hlength
  omega

end Segment

def segments : List Token → List Segment
  | [] => []
  | t :: rest => (Segment.front t rest).1 :: segments (Segment.front t rest).2
termination_by ts => ts.length
decreasing_by exact Segment.length_front_lt t rest

theorem flatMap_tokens_segments (ts : List Token) : (segments ts).flatMap Segment.tokens = ts := by
  fun_induction segments ts with
  | case1 => rfl
  | case2 t rest ih => rw [List.flatMap_cons, ih, Segment.tokens_front]

def Item.segment : Item → Segment
  | .statement s => .statement s.statementClass s.keyword (Node.listTokens s.children) s.terminator
  | .label name colon => .label name colon

namespace Draft

def bodyTokens (d : Draft) : List Token :=
  d.brackets.reverse.flatMap OpenBracket.tokens ++ Node.listTokens d.nodes.reverse

def balance (d : Draft) : Nat :=
  d.excess.length + d.brackets.length

@[simp]
theorem keyword_start (keyword : Option Token) : (start keyword).keyword = keyword :=
  rfl

@[simp]
theorem statementClass_start_none : (start none).statementClass = .expression :=
  rfl

@[simp]
theorem bodyTokens_start (keyword : Option Token) : (start keyword).bodyTokens = [] := by
  simp [start, bodyTokens, Node.listTokens]

theorem isOutermost_iff (d : Draft) : d.isOutermost = true ↔ d.balance = 0 := by
  simp only [isOutermost, balance, Bool.and_eq_true, List.isEmpty_iff, Nat.add_eq_zero_iff,
    List.length_eq_zero_iff]
  exact And.comm

@[simp]
theorem bodyTokens_addLeaf (d : Draft) (t : Token) :
    (d.addLeaf t).bodyTokens = d.bodyTokens ++ [t] := by
  simp [addLeaf, bodyTokens]

theorem endsBefore_iff (d : Draft) (t : Token) (rest : List Token) :
    d.endsBefore t rest.head? = true ↔ d.statementClass = .control ∧ d.balance = 0 ∧
      (t.role? = some .leader ∨ (Segment.colon? t rest).isSome = true) := by
  simp only [endsBefore, Bool.and_eq_true, Bool.or_eq_true, beq_iff_eq, isOutermost_iff,
    Segment.isSome_colon?]
  rw [and_assoc, and_left_comm]

theorem isHeaderEnd_iff (d : Draft) (t : Token) :
    d.isHeaderEnd t = true ↔
      d.statementClass = .control ∧ d.balance = 0 ∧ t.role? = some .headerEnd := by
  simp only [isHeaderEnd, Bool.and_eq_true, beq_iff_eq, isOutermost_iff]
  rw [and_assoc, and_left_comm]

@[simp]
theorem keyword_add (limit : Nat) (d : Draft) (t : Token) :
    (d.add limit t).2.keyword = d.keyword := by
  unfold add
  split
  · unfold addOpening
    split
    · rfl
    · split
      · exact keyword_push d t
      · rfl
  · unfold addClosing
    split <;> rfl
  · rfl

@[simp]
theorem statementClass_add (limit : Nat) (d : Draft) (t : Token) :
    (d.add limit t).2.statementClass = d.statementClass := by
  rw [statementClass, statementClass, keyword_add]

@[simp]
theorem bodyTokens_add (limit : Nat) (d : Draft) (t : Token) :
    (d.add limit t).2.bodyTokens = d.bodyTokens ++ [t] := by
  have htokens := tokens_add limit d t
  have hsplit : ∀ e : Draft, e.tokens = e.keyword.toList ++ e.bodyTokens :=
    fun e => List.append_assoc _ _ _
  rw [hsplit, hsplit, keyword_add, List.append_assoc] at htokens
  exact List.append_cancel_left htokens

theorem balance_addOpening (limit : Nat) (d : Draft) (t : Token) :
    (d.addOpening limit t).2.balance = d.balance + 1 := by
  unfold addOpening
  split
  · simp only [balance, addLeaf, List.length_cons]
    omega
  · next hexcess =>
    have hnil : d.excess = [] := by simpa using hexcess
    split
    · simp only [balance, excess_push, brackets_push, List.length_cons]
      omega
    · simp only [balance, addLeaf, hnil, List.length_cons, List.length_nil]
      omega

theorem balance_addClosing (d : Draft) (t : Token) :
    (d.addClosing t).2.balance = d.balance - 1 := by
  unfold addClosing
  split
  · next hexcess =>
    simp only [balance, addLeaf, hexcess, List.length_cons]
    omega
  · next hexcess hbrackets =>
    simp only [balance, hexcess, hbrackets, List.length_cons, List.length_nil]
    omega
  · next hexcess hbrackets => simp [balance, addLeaf, hexcess, hbrackets]

@[simp]
theorem balance_add (limit : Nat) (d : Draft) (t : Token) :
    (d.add limit t).2.balance = Segment.balanceAfter d.balance t := by
  unfold add
  split
  · next hkind =>
    simp only [Segment.balanceAfter, hkind]
    exact balance_addOpening limit d t
  · next hkind =>
    simp only [Segment.balanceAfter, hkind]
    exact balance_addClosing d t
  · next hleft hright =>
    unfold Segment.balanceAfter
    split
    · next hkind => exact absurd hkind hleft
    · next hkind => exact absurd hkind hright
    · rfl

theorem segment_finish (d : Draft) (terminator : Option Token) :
    (d.finish terminator).segment =
      .statement d.statementClass d.keyword d.bodyTokens terminator := by
  simp only [finish, Item.segment, listTokens_collapse]
  rfl

end Draft

namespace Progress

open Segment

/-- The segments of the item in progress and of the tokens behind what is read of it. -/
def segmentsFrom : Progress → List Token → List Segment
  | .between, ts => segments ts
  | .labelled name, [] => [.statement .expression none [name] none]
  | .labelled name, colon :: rest => .label name colon :: segments rest
  | .inside d, ts =>
    let (more, after) := body d.statementClass d.balance ts
    let (segment, rest) := close d.statementClass d.keyword (d.bodyTokens ++ more) after
    segment :: segments rest
  | .headed d, ts =>
    let (segment, rest) := close d.statementClass d.keyword d.bodyTokens ts
    segment :: segments rest

@[simp]
theorem segmentsFrom_between (ts : List Token) : between.segmentsFrom ts = segments ts :=
  rfl

theorem segmentsFrom_inside (d : Draft) (ts : List Token) :
    (inside d).segmentsFrom ts =
      (close d.statementClass d.keyword (d.bodyTokens ++ (body d.statementClass d.balance ts).1)
          (body d.statementClass d.balance ts).2).1 ::
        segments (close d.statementClass d.keyword
          (d.bodyTokens ++ (body d.statementClass d.balance ts).1)
          (body d.statementClass d.balance ts).2).2 :=
  rfl

theorem segmentsFrom_headed (d : Draft) (ts : List Token) :
    (headed d).segmentsFrom ts = (close d.statementClass d.keyword d.bodyTokens ts).1 ::
      segments (close d.statementClass d.keyword d.bodyTokens ts).2 :=
  rfl

theorem segments_enter (limit : Nat) (t : Token) (rest : List Token) :
    (enter limit t rest.head?).1.items.map Item.segment ++
        (enter limit t rest.head?).2.segmentsFrom rest = segments (t :: rest) := by
  have hlabel := isSome_colon? t rest
  rw [segments]
  unfold enter front
  split
  · next h =>
    rw [h.1, h.2, Bool.and_self, Option.isSome_iff_exists] at hlabel
    obtain ⟨colon, hcolon⟩ := hlabel
    obtain ⟨hhead, -, -⟩ := colon?_eq_some_iff.1 hcolon
    obtain ⟨back, rfl⟩ := List.head?_eq_some_iff.1 hhead
    simp [hcolon, segmentsFrom, Assembly.empty]
  · next h =>
    have hcolon : colon? t rest = none := by
      rw [← Option.not_isSome_iff_eq_none, hlabel, Bool.and_eq_true]
      exact h
    simp only [hcolon]
    split
    · simp [Assembly.ofDraft, Draft.segment_finish, segmentsFrom]
    · split
      · simp only [segmentsFrom, Draft.statementClass_add, Draft.balance_add, Draft.keyword_add,
          Draft.bodyTokens_add]
        rfl
      · split
        · rfl
        · rfl

/-- Ending a statement in front of a token leaves the segments of the token and of what follows it. -/
theorem segments_ofDraft_append (limit : Nat) (d : Draft) (t : Token) (rest : List Token) :
    ((Assembly.ofDraft d none).append (enter limit t rest.head?).1).items.map Item.segment ++
        (enter limit t rest.head?).2.segmentsFrom rest =
      .statement d.statementClass d.keyword d.bodyTokens none :: segments (t :: rest) := by
  rw [← segments_enter limit t rest]
  simp [Assembly.append, Assembly.ofDraft, Draft.segment_finish]

theorem segments_step (limit : Nat) (p : Progress) (t : Token) (rest : List Token) :
    (p.step limit t rest.head?).1.items.map Item.segment ++
        (p.step limit t rest.head?).2.segmentsFrom rest = p.segmentsFrom (t :: rest) := by
  cases p with
  | between => exact segments_enter limit t rest
  | labelled name => rfl
  | inside d =>
    rw [segmentsFrom_inside, body, step]
    split
    · next hsemicolon =>
      rw [close_cons_of_semicolon hsemicolon, List.append_nil]
      simp [Assembly.ofDraft, Draft.segment_finish]
    · next hsemicolon =>
      split
      · next hends =>
        rw [if_pos ((d.endsBefore_iff t rest).1 hends), close_cons_of_ne hsemicolon, List.append_nil]
        exact segments_ofDraft_append limit d t rest
      · next hends =>
        rw [if_neg (mt (d.endsBefore_iff t rest).2 hends)]
        simp only [List.map_nil, List.nil_append]
        split
        · next hheader =>
          rw [if_pos ((d.isHeaderEnd_iff t).1 hheader), segmentsFrom_headed]
          simp
        · next hheader =>
          rw [if_neg (mt (d.isHeaderEnd_iff t).2 hheader), segmentsFrom_inside]
          simp
  | headed d =>
    rw [segmentsFrom_headed, step]
    split
    · next hsemicolon =>
      rw [close_cons_of_semicolon hsemicolon]
      simp [Assembly.ofDraft, Draft.segment_finish]
    · next hsemicolon =>
      rw [close_cons_of_ne hsemicolon]
      exact segments_ofDraft_append limit d t rest

theorem segments_finish (p : Progress) :
    p.finish.items.map Item.segment = p.segmentsFrom [] := by
  cases p with
  | between => simp [finish, Assembly.empty, segments]
  | labelled name =>
    have hsegment := Draft.segment_finish ((Draft.start none).addLeaf name) none
    rw [Draft.bodyTokens_addLeaf, Draft.bodyTokens_start] at hsegment
    exact congrArg (fun segment => [segment]) hsegment
  | inside d => simp [finish, Assembly.ofDraft, Draft.segment_finish, segmentsFrom, body, close, segments]
  | headed d => simp [finish, Assembly.ofDraft, Draft.segment_finish, segmentsFrom, close, segments]

theorem segments_run (limit : Nat) (p : Progress) (ts : List Token) :
    (p.run limit ts).items.map Item.segment = p.segmentsFrom ts := by
  induction ts generalizing p with
  | nil => exact segments_finish p
  | cons t rest ih =>
    have hitems : (p.run limit (t :: rest)).items = (p.step limit t rest.head?).1.items ++
        ((p.step limit t rest.head?).2.run limit rest).items := rfl
    rw [hitems, List.map_append, ih, segments_step]

end Progress

/-- The items of a token list are its segments, whatever the nesting limit is, and the segments are slices of
the list that follow each other without a gap. -/
theorem items_assemble_eq_segments (limit : Nat) (tokens : List Token) :
    (assemble limit tokens).items.map Item.segment = segments tokens ∧
      (segments tokens).flatMap Segment.tokens = tokens :=
  ⟨Progress.segments_run (effectiveDepth limit) .between tokens, flatMap_tokens_segments tokens⟩

end LoadScript
