import LoadScript.Proofs.Tree.Matching
import LoadScript.Proofs.Tree.ParenScan

/-!
Assembly puts each token of a statement where matching of parentheses puts it. The stack of a statement in
progress is that of the unclosed parentheses up to the limit; those beyond it are only counted. In particular no
tree is deeper than the limit.
-/

set_option autoImplicit false
set_option relaxedAutoImplicit false

namespace LoadScript

namespace Draft

open Matching

theorem getLast?_tokens {d : Draft} {name : Token} {before : List Node}
    (hnodes : d.nodes = .leaf name :: before) : d.tokens.getLast? = some name := by
  have htokens : d.tokens = d.keyword.toList ++ d.brackets.reverse.flatMap OpenBracket.tokens ++
      Node.listTokens before.reverse ++ [name] := by
    rw [tokens, hnodes, List.reverse_cons, Node.listTokens_append, Node.listTokens_singleton,
      Node.tokens_leaf]
    simp only [List.append_assoc]
  rw [htokens, List.getLast?_concat]

private theorem leaf_of_getLast_of_ne {d : Draft} (ts : List Token) {t : Token}
    (htokens : d.tokens = ts ++ [t]) (ht : t.kind ≠ .identifier) :
    ∀ u, d.tokens.getLast? = some u → u.kind = .identifier → ∃ before, d.nodes = .leaf u :: before := by
  intro u hu hkind
  rw [htokens, List.getLast?_concat] at hu
  obtain rfl := Option.some.inj hu
  exact absurd hkind ht

/-- Holds of a statement in progress whose tokens have the places that matching parentheses gives them. -/
structure Placed (limit : Nat) (d : Draft) : Prop where
  places_eq : d.places = placesFrom limit [] none d.tokens
  stillOpen_eq : ∃ excess : List Nat, excess.length = d.excess.length ∧
    stillOpen d.tokens = excess ++ d.around
  fits : d.Fits limit
  /-- A name that is read last is the last leaf, so a parenthesis behind it finds it. -/
  leaf_of_getLast : ∀ t, d.tokens.getLast? = some t → t.kind = .identifier →
    ∃ before, d.nodes = .leaf t :: before

namespace Placed

variable {limit : Nat} {d : Draft} {t : Token}

theorem kept_stillOpen (h : d.Placed limit) : kept limit (stillOpen d.tokens) = d.around := by
  obtain ⟨excess, hlength, hopen⟩ := h.stillOpen_eq
  have haround := d.length_around
  have hle := h.fits.length_le
  rw [kept, hopen, List.length_append, haround]
  by_cases hexcess : d.excess = []
  · rw [hexcess] at hlength
    obtain rfl : excess = [] := List.length_eq_zero_iff.1 hlength
    have hzero : 0 + d.brackets.length - limit = 0 := by omega
    rw [List.length_nil, hzero, List.drop_zero, List.nil_append]
  · have heq := h.fits.length_eq hexcess
    have hdrop : excess.length + d.brackets.length - limit = excess.length := by omega
    rw [hdrop, List.drop_left]

theorem stillOpen_of_excess_eq_nil (h : d.Placed limit) (hexcess : d.excess = []) :
    stillOpen d.tokens = d.around := by
  obtain ⟨excess, hlength, hopen⟩ := h.stillOpen_eq
  rw [hexcess] at hlength
  obtain rfl : excess = [] := List.length_eq_zero_iff.1 hlength
  rw [hopen, List.nil_append]

theorem le_length_stillOpen (h : d.Placed limit) (hexcess : d.excess ≠ []) :
    limit ≤ (stillOpen d.tokens).length := by
  obtain ⟨excess, -, hopen⟩ := h.stillOpen_eq
  have heq := h.fits.length_eq hexcess
  rw [hopen, List.length_append, d.length_around]
  omega

theorem addLeaf (h : d.Placed limit) (excess : List Token)
    (hcall : t.kind = .leftParen → limit ≤ (stillOpen d.tokens).length)
    (hplace : placeOf limit d.tokens t none = .leaf t.kind.leafName d.around)
    (hopen : ∃ more : List Nat, more.length = excess.length ∧
      stillOpen (d.tokens ++ [t]) = more ++ d.around)
    (hfits : excess ≠ [] → d.brackets.length = limit) :
    ({ d.addLeaf t with excess := excess } : Draft).Placed limit := by
  have htokens : ({ d.addLeaf t with excess := excess } : Draft).tokens = d.tokens ++ [t] :=
    tokens_addLeaf d t
  have hplaces : ({ d.addLeaf t with excess := excess } : Draft).places =
      d.places ++ [(t, .leaf t.kind.leafName d.around)] := places_addLeaf d t
  refine ⟨?_, ?_, ⟨h.fits.length_le, hfits⟩, ?_⟩
  · rw [htokens, hplaces, placesFrom_append, List.nil_append, hplace, placesFrom_some_eq hcall,
      ← h.places_eq]
  · rw [htokens]
    exact hopen
  · intro u hu _
    rw [htokens, List.getLast?_concat] at hu
    obtain rfl := Option.some.inj hu
    exact ⟨d.nodes, rfl⟩

theorem exists_name_iff (h : d.Placed limit) :
    (d.tokens.getLast?.any fun u => u.kind == .identifier) = true ↔
      ∃ name before, d.nodes = .leaf name :: before ∧ name.kind = .identifier := by
  constructor
  · intro hname
    obtain ⟨u, hu, hkind⟩ := (Option.any_eq_true _ _).1 hname
    have hidentifier : u.kind = .identifier := by simpa using hkind
    obtain ⟨before, hnodes⟩ := h.leaf_of_getLast u hu hidentifier
    exact ⟨u, before, hnodes, hidentifier⟩
  · rintro ⟨name, before, hnodes, hname⟩
    rw [getLast?_tokens hnodes]
    simpa using hname

theorem places_push (h : d.Placed limit) (hexcess : d.excess = []) (hlt : d.brackets.length < limit)
    (ht : t.kind = .leftParen) :
    (d.push t).places = placesFrom limit [] none (d.tokens ++ [t]) := by
  have hopen := h.stillOpen_of_excess_eq_nil hexcess
  have hlength : (stillOpen d.tokens).length < limit := by
    rw [hopen, length_around]
    exact hlt
  rw [placesFrom_append, List.nil_append, placeOf_leftParen ht, if_pos hlength, hopen]
  by_cases hname : ∃ name before, d.nodes = .leaf name :: before ∧ name.kind = .identifier
  · rw [h.exists_name_iff.2 hname]
    obtain ⟨name, before, hnodes, hkind⟩ := hname
    obtain ⟨read, hread, hpush⟩ := places_push_of_name hnodes hkind t
    obtain ⟨front, hfront⟩ := List.getLast?_eq_some_iff.1 (getLast?_tokens hnodes)
    have hsame : stillOpen front = d.around := by
      rw [← hopen, hfront, stillOpen_append, stillOpenAfter, hkind]
    have hcall : placeOf limit front name (some t) = .callName d.around := by
      rw [placeOf_identifier hkind, hsame, if_pos]
      exact ⟨by rwa [length_around], by simpa using ht⟩
    have hplaces := h.places_eq
    rw [hread, hfront, placesFrom_append] at hplaces
    obtain rfl : read = placesFrom limit [] (some name) front := List.append_inj_left' hplaces rfl
    rw [hpush, hfront, placesFrom_append, List.nil_append, hcall, List.append_assoc]
    rfl
  · have hnot : ∀ name before, d.nodes = .leaf name :: before → name.kind ≠ .identifier :=
      fun name before hnodes hkind => hname ⟨name, before, hnodes, hkind⟩
    rw [Bool.eq_false_iff.2 (mt h.exists_name_iff.1 hname), places_push_of_not_name hnot, h.places_eq]
    congr 1
    refine (placesFrom_eq_of_not_call fun u hu hkind _ => ?_).symm
    exact absurd (h.exists_name_iff.1 (by simp [hu, hkind])) hname

theorem push (h : d.Placed limit) (hexcess : d.excess = []) (hlt : d.brackets.length < limit)
    (ht : t.kind = .leftParen) : (d.push t).Placed limit := by
  have hopen := h.stillOpen_of_excess_eq_nil hexcess
  refine ⟨?_, ⟨[], ?_, ?_⟩, ⟨?_, ?_⟩, ?_⟩
  · rw [tokens_push]
    exact h.places_push hexcess hlt ht
  · rw [excess_push, hexcess]
    rfl
  · rw [tokens_push, around_push, stillOpen_append, stillOpenAfter, ht, hopen]
    rfl
  · rw [brackets_push, List.length_cons]
    exact hlt
  · rw [excess_push]
    exact fun hne => absurd hexcess hne
  · exact leaf_of_getLast_of_ne d.tokens (tokens_push d t) (by simp [ht])

theorem addOpening (h : d.Placed limit) (ht : t.kind = .leftParen) :
    (d.addOpening limit t).2.Placed limit := by
  have hleaf : limit ≤ (stillOpen d.tokens).length →
      placeOf limit d.tokens t none = .leaf t.kind.leafName d.around := by
    intro hle
    rw [placeOf_leftParen ht, if_neg (Nat.not_lt.2 hle), h.kept_stillOpen, ht]
    rfl
  have hopen : stillOpen (d.tokens ++ [t]) = d.tokens.length :: stillOpen d.tokens := by
    rw [stillOpen_append, stillOpenAfter, ht]
  unfold Draft.addOpening
  split
  · next hexcess =>
    have hne : d.excess ≠ [] := by simpa using hexcess
    have hle := h.le_length_stillOpen hne
    obtain ⟨more, hlength, hmore⟩ := h.stillOpen_eq
    refine h.addLeaf _ (fun _ => hle) (hleaf hle) ⟨d.tokens.length :: more, ?_, ?_⟩ ?_
    · rw [List.length_cons, List.length_cons, hlength]
    · rw [hopen, hmore, List.cons_append]
    · exact fun _ => h.fits.length_eq hne
  · next hexcess =>
    have hnil : d.excess = [] := by simpa using hexcess
    split
    · next hlt => exact h.push hnil hlt ht
    · next hge =>
      have hsame := h.stillOpen_of_excess_eq_nil hnil
      have hle : limit ≤ (stillOpen d.tokens).length := by
        rw [hsame, length_around]
        omega
      refine h.addLeaf _ (fun _ => hle) (hleaf hle) ⟨[d.tokens.length], rfl, ?_⟩ ?_
      · rw [hopen, hsame, List.singleton_append]
      · exact fun _ => Nat.le_antisymm h.fits.length_le (Nat.le_of_not_lt hge)

theorem addClosing (h : d.Placed limit) (ht : t.kind = .rightParen) :
    (d.addClosing t).2.Placed limit := by
  have hcall : t.kind = .leftParen → limit ≤ (stillOpen d.tokens).length := by
    intro hleft
    rw [ht] at hleft
    exact absurd hleft (by decide)
  have hopen : stillOpen (d.tokens ++ [t]) = (stillOpen d.tokens).tail := by
    rw [stillOpen_append, stillOpenAfter, ht]
  unfold Draft.addClosing
  split
  · next u outer hexcess =>
    -- the innermost open parenthesis is one beyond the limit
    have hne : d.excess ≠ [] := by simp [hexcess]
    have heq := h.fits.length_eq hne
    obtain ⟨more, hlength, hmore⟩ := h.stillOpen_eq
    rw [hexcess] at hlength
    obtain ⟨position, rest, rfl⟩ := List.exists_cons_of_length_eq_add_one hlength
    have hrest : rest.length = outer.length := by simpa using hlength
    refine h.addLeaf outer hcall ?_ ⟨rest, hrest, ?_⟩ fun _ => heq
    · rw [placeOf_rightParen_of_cons ht hmore, if_neg, h.kept_stillOpen, ht]
      · rfl
      · have hlong : (rest ++ d.around).length = rest.length + d.brackets.length := by
          rw [List.length_append, length_around]
        exact fun hlt => absurd (hlong ▸ hlt) (by omega)
    · rw [hopen, hmore]
      rfl
  · next b outer hexcess hbrackets =>
    have hsame := h.stillOpen_of_excess_eq_nil hexcess
    obtain ⟨node, haround, hplaces⟩ := places_finish hbrackets (some t)
    have htokens := tokens_addClosing d t
    have hadd : d.addClosing t =
        ([], { d with brackets := outer, nodes := b.finish d.nodes (some t) }) := by
      simp [Draft.addClosing, hexcess, hbrackets]
    rw [hadd] at htokens
    have hle := h.fits.length_le
    rw [hbrackets, List.length_cons] at hle
    refine ⟨?_, ⟨[], ?_, ?_⟩, ⟨?_, ?_⟩, ?_⟩
    · have hlt : ({ d with brackets := outer } : Draft).around.length < limit := by
        rw [length_around]
        exact hle
      rw [htokens, hplaces, placesFrom_append, List.nil_append,
        placeOf_rightParen_of_cons ht (hsame.trans haround), if_pos hlt, placesFrom_some_eq hcall,
        h.places_eq]
      rfl
    · rw [hexcess]
      rfl
    · rw [htokens, hopen, hsame, haround]
      rfl
    · exact Nat.le_of_succ_le hle
    · exact fun hne => absurd hexcess hne
    · exact leaf_of_getLast_of_ne d.tokens htokens (by simp [ht])
  · next hexcess hbrackets =>
    have hnil : stillOpen d.tokens = [] := by
      rw [h.stillOpen_of_excess_eq_nil hexcess, ← List.length_eq_zero_iff, length_around, hbrackets]
      rfl
    have haround : d.around = [] := by rw [← h.stillOpen_of_excess_eq_nil hexcess, hnil]
    have hadd := h.addLeaf d.excess hcall ?_ ⟨[], ?_, ?_⟩ ?_
    · exact hadd
    · rw [placeOf_rightParen_of_nil ht hnil, haround, ht]
      rfl
    · rw [hexcess]
      rfl
    · rw [hopen, hnil, haround]
      rfl
    · exact h.fits.length_eq

theorem add (h : d.Placed limit) (ht : t.kind ≠ .semicolon)
    (hfirst : d.tokens = [] → t.kind.statementClass = .expression) :
    (d.add limit t).2.Placed limit := by
  unfold Draft.add
  split
  · next hkind => exact h.addOpening hkind
  · next hkind => exact h.addClosing hkind
  · next hleft hright =>
    have hopen : stillOpen (d.tokens ++ [t]) = stillOpen d.tokens := by
      rw [stillOpen_append, stillOpenAfter_of_ne hleft hright]
    obtain ⟨more, hlength, hmore⟩ := h.stillOpen_eq
    refine h.addLeaf d.excess ?_ ?_ ⟨more, hlength, ?_⟩ h.fits.length_eq
    · exact fun hkind => absurd hkind hleft
    · rw [placeOf_other hleft hright ht hfirst, h.kept_stillOpen]
    · rw [hopen, hmore]

theorem start_none (limit : Nat) : (Draft.start none).Placed limit where
  places_eq := rfl
  stillOpen_eq := ⟨[], rfl, rfl⟩
  fits := fits_start limit none
  leaf_of_getLast := by
    intro u hu
    exact absurd hu (by simp)

theorem start_some (ht : t.kind.statementClass ≠ .expression) :
    (Draft.start (some t)).Placed limit where
  places_eq := by
    rw [tokens_start, Option.toList_some, placesFrom, placesFrom, placeOf_keyword ht]
    rfl
  stillOpen_eq := by
    have hleft : t.kind ≠ .leftParen := fun hkind => ht (by rw [hkind]; rfl)
    have hright : t.kind ≠ .rightParen := fun hkind => ht (by rw [hkind]; rfl)
    refine ⟨[], rfl, ?_⟩
    rw [tokens_start, Option.toList_some, stillOpen, stillOpenFrom, stillOpenFrom,
      stillOpenAfter_of_ne hleft hright]
    rfl
  fits := fits_start limit (some t)
  leaf_of_getLast := by
    refine leaf_of_getLast_of_ne [] (tokens_start (some t)) fun hkind => ?_
    rw [hkind] at ht
    exact ht rfl

theorem stillOpen_of_isOutermost (h : d.Placed limit) (houtermost : d.isOutermost = true) :
    stillOpen d.tokens = [] := by
  simp only [isOutermost, Bool.and_eq_true, List.isEmpty_iff] at houtermost
  rw [h.stillOpen_of_excess_eq_nil houtermost.2, ← List.length_eq_zero_iff, length_around,
    houtermost.1]
  rfl

end Placed

end Draft

open Matching

def Item.Placed (limit : Nat) : Item → Prop
  | .statement s => s.places = placesFrom limit [] none s.tokens
  | .label _ _ => True

/-- Holds of an item that leaves parentheses open only in front of its semicolon. -/
def Item.Settled : Item → Prop
  | .statement s => s.terminator = none → stillOpen s.tokens = []
  | .label _ _ => True

namespace Draft

variable {limit : Nat} {d : Draft}

theorem Placed.finish (h : d.Placed limit) {terminator : Option Token}
    (hterminator : ∀ t ∈ terminator, t.kind = .semicolon) : (d.finish terminator).Placed limit := by
  have htokens : (Statement.mk d.keyword (collapse d.nodes d.brackets).reverse terminator).tokens =
      d.tokens ++ terminator.toList := tokens_finish d terminator
  have hplaces : (Statement.mk d.keyword (collapse d.nodes d.brackets).reverse terminator).places =
      d.places ++ terminator.toList.map fun t => (t, .terminator) := by
    rw [Statement.places, listPlaces_collapse, places, List.append_assoc _ d.outerPlaces]
    rfl
  rw [Draft.finish, Item.Placed, htokens, hplaces, h.places_eq]
  cases terminator with
  | none => rw [Option.toList_none, List.map_nil, List.append_nil, List.append_nil]
  | some t =>
    have ht := hterminator t rfl
    rw [Option.toList_some, placesFrom_append, List.nil_append, placeOf_semicolon ht]
    have hnot : t.kind = .leftParen → limit ≤ (stillOpen d.tokens).length := by
      intro hkind
      exact absurd (hkind.symm.trans ht) (by decide)
    rw [placesFrom_some_eq hnot]
    rfl

theorem settled_finish_some (d : Draft) (t : Token) : (d.finish (some t)).Settled :=
  fun h => absurd h (by simp)

theorem Placed.settled_finish (h : d.Placed limit) (houtermost : d.isOutermost = true) :
    (d.finish none).Settled := by
  intro _
  have htokens : (Statement.mk d.keyword (collapse d.nodes d.brackets).reverse none).tokens =
      d.tokens ++ [] := tokens_finish d none
  rw [htokens, List.append_nil]
  exact h.stillOpen_of_isOutermost houtermost

end Draft

namespace Progress

def Placed (limit : Nat) : Progress → Prop
  | .between => True
  | .labelled name => name.kind.isName = true
  | .inside d => d.Placed limit ∧ d.tokens ≠ []
  | .headed d => d.Placed limit ∧ d.isOutermost = true

/-- Holds of items that are in their places and leave no parenthesis open. -/
def Good (limit : Nat) (items : List Item) : Prop :=
  ∀ item ∈ items, item.Placed limit ∧ item.Settled

theorem good_nil (limit : Nat) : Good limit [] :=
  fun _ h => absurd h List.not_mem_nil

theorem good_ofDraft_some {limit : Nat} {d : Draft} (h : d.Placed limit) {t : Token}
    (ht : t.kind = .semicolon) : Good limit (Assembly.ofDraft d (some t)).items := by
  intro item hitem
  obtain rfl := List.mem_singleton.1 hitem
  refine ⟨h.finish ?_, d.settled_finish_some t⟩
  intro u hu
  rwa [← Option.some.inj hu]

theorem good_ofDraft_none_append {limit : Nat} {d : Draft} (h : d.Placed limit)
    (houtermost : d.isOutermost = true) {a : Assembly} (ha : Good limit a.items) :
    Good limit ((Assembly.ofDraft d none).append a).items := by
  intro item hitem
  rcases List.mem_append.1 hitem with hitem | hitem
  · obtain rfl := List.mem_singleton.1 hitem
    exact ⟨h.finish (by simp), h.settled_finish houtermost⟩
  · exact ha item hitem

theorem placed_enter (limit : Nat) (t : Token) (next : Option Token) :
    Good limit (enter limit t next).1.items ∧ (enter limit t next).2.Placed limit := by
  have hnone := Draft.Placed.start_none limit
  unfold enter
  split
  · next hlabel => exact ⟨good_nil limit, hlabel.1⟩
  · split
    · next hsemicolon => exact ⟨good_ofDraft_some hnone hsemicolon, trivial⟩
    · next hsemicolon =>
      split
      · next hclass =>
        refine ⟨good_nil limit, hnone.add hsemicolon fun _ => hclass, ?_⟩
        simp [Draft.tokens_add]
      · next hclass =>
        have hsome : (Draft.start (some t)).Placed limit := Draft.Placed.start_some hclass
        split
        · exact ⟨good_nil limit, hsome, rfl⟩
        · refine ⟨good_nil limit, hsome, ?_⟩
          simp

theorem isOutermost_add_of_isHeaderEnd {limit : Nat} {d : Draft} {t : Token}
    (h : d.isHeaderEnd t = true) : (d.add limit t).2.isOutermost = true := by
  simp only [Draft.isHeaderEnd, Bool.and_eq_true, beq_iff_eq] at h
  obtain ⟨⟨houtermost, -⟩, hrole⟩ := h
  have hadd : d.add limit t = ([], d.addLeaf t) := by
    unfold Token.role? at hrole
    split at hrole
    · next hkind => simp [Draft.add, hkind]
    · exact absurd hrole (by simp)
  rw [hadd]
  exact houtermost

/-- A step puts no token out of place, and ends no statement with open parentheses but at a semicolon. -/
theorem placed_step {limit : Nat} {p : Progress} (h : p.Placed limit) (t : Token)
    (next : Option Token) :
    Good limit (p.step limit t next).1.items ∧ (p.step limit t next).2.Placed limit := by
  obtain ⟨henter, hprogress⟩ := placed_enter limit t next
  cases p with
  | between => exact ⟨henter, hprogress⟩
  | labelled name =>
    refine ⟨?_, trivial⟩
    intro item hitem
    obtain rfl := List.mem_singleton.1 hitem
    exact ⟨trivial, trivial⟩
  | inside d =>
    obtain ⟨hplaced, hbegun⟩ := h
    rw [step]
    split
    · next hsemicolon => exact ⟨good_ofDraft_some hplaced hsemicolon, trivial⟩
    · next hsemicolon =>
      split
      · next hends =>
        have houtermost := Draft.isOutermost_of_endsBefore hends
        exact ⟨good_ofDraft_none_append hplaced houtermost henter, hprogress⟩
      · have hadd := hplaced.add hsemicolon fun hnil => absurd hnil hbegun
        refine ⟨good_nil limit, ?_⟩
        dsimp only
        split
        · next hheader => exact ⟨hadd, isOutermost_add_of_isHeaderEnd hheader⟩
        · refine ⟨hadd, ?_⟩
          simp [Draft.tokens_add]
  | headed d =>
    obtain ⟨hplaced, houtermost⟩ := h
    rw [step]
    split
    · next hsemicolon => exact ⟨good_ofDraft_some hplaced hsemicolon, trivial⟩
    · exact ⟨good_ofDraft_none_append hplaced houtermost henter, hprogress⟩

theorem placed_finish {limit : Nat} {p : Progress} (h : p.Placed limit) :
    ∀ item ∈ p.finish.items, item.Placed limit := by
  have hdraft : ∀ d : Draft, d.Placed limit →
      ∀ item ∈ (Assembly.ofDraft d none).items, item.Placed limit := by
    intro d hd item hitem
    obtain rfl := List.mem_singleton.1 hitem
    exact hd.finish (by simp)
  cases p with
  | between => exact fun _ hitem => absurd hitem List.not_mem_nil
  | labelled name =>
    have hadd : (Draft.start none).add limit name = ([], (Draft.start none).addLeaf name) := by
      unfold Draft.add
      split
      · next hkind => simp [Placed, hkind, TokenKind.isName] at h
      · next hkind => simp [Placed, hkind, TokenKind.isName] at h
      · rfl
    have hsemicolon : name.kind ≠ .semicolon := by
      intro hkind
      simp [Placed, hkind, TokenKind.isName] at h
    have hclass : name.kind.statementClass = .expression := by
      cases hkind : name.kind <;> simp_all [Placed, TokenKind.isName, TokenKind.statementClass]
    have hname := (Draft.Placed.start_none limit).add hsemicolon fun _ => hclass
    rw [hadd] at hname
    exact hdraft _ hname
  | inside d => exact hdraft d h.1
  | headed d => exact hdraft d h.1

theorem length_finish_le (p : Progress) : p.finish.items.length ≤ 1 := by
  cases p <;> simp [finish, Assembly.empty, Assembly.ofDraft]

theorem placed_run {limit : Nat} {p : Progress} (h : p.Placed limit) (ts : List Token) :
    (∀ item ∈ (p.run limit ts).items, item.Placed limit) ∧
      ∀ item ∈ (p.run limit ts).items.dropLast, item.Settled := by
  induction ts generalizing p with
  | nil =>
    refine ⟨placed_finish h, ?_⟩
    -- at most one item is left at the end, and the last item is not asked for
    have hlength := length_finish_le p
    have hdrop : p.finish.items.dropLast = [] := by
      rw [← List.length_eq_zero_iff, List.length_dropLast]
      omega
    rw [run, hdrop]
    exact fun _ hitem => absurd hitem List.not_mem_nil
  | cons t rest ih =>
    obtain ⟨hgood, hprogress⟩ := placed_step h t rest.head?
    obtain ⟨hplaced, hsettled⟩ := ih hprogress
    have hitems : (p.run limit (t :: rest)).items = (p.step limit t rest.head?).1.items ++
        ((p.step limit t rest.head?).2.run limit rest).items := rfl
    rw [hitems]
    constructor
    · intro item hitem
      rcases List.mem_append.1 hitem with hitem | hitem
      · exact (hgood item hitem).1
      · exact hplaced item hitem
    · intro item hitem
      by_cases hnil : ((p.step limit t rest.head?).2.run limit rest).items = []
      · rw [hnil, List.append_nil] at hitem
        exact (hgood item ((List.dropLast_sublist _).subset hitem)).2
      · rw [List.dropLast_append_of_ne_nil hnil] at hitem
        rcases List.mem_append.1 hitem with hitem | hitem
        · exact (hgood item hitem).2
        · exact hsettled item hitem

end Progress

/-- The tokens of each statement have the places in its tree that matching parentheses gives them, only a
semicolon or the end of the tokens leaves parentheses open, and no tree is deeper than the limit in force. -/
theorem statement_places_eq {limit : Nat} {tokens : List Token} {before after : List Item}
    {s : Statement} (h : (assemble limit tokens).items = before ++ .statement s :: after) :
    s.places = placesFrom (min limit 256) [] none s.tokens ∧
      (stillOpen s.tokens ≠ [] → s.terminator ≠ none ∨ after = []) ∧
      Node.listDepth s.children ≤ min limit 256 := by
  have hrun : (assemble limit tokens).items = (Progress.between.run (min limit 256) tokens).items := rfl
  have hbetween : Progress.between.Placed (min limit 256) := trivial
  obtain ⟨hplaced, hsettled⟩ := Progress.placed_run hbetween tokens
  rw [← hrun, h] at hplaced hsettled
  have hplaces : s.places = placesFrom (min limit 256) [] none s.tokens :=
    hplaced (.statement s) (by simp)
  refine ⟨hplaces, ?_, ?_⟩
  · intro hopen
    by_cases hafter : after = []
    · exact Or.inr hafter
    · refine Or.inl fun hnone => hopen (hsettled (.statement s) ?_ hnone)
      rw [List.dropLast_append_of_ne_nil (by simp), List.dropLast_cons_of_ne_nil hafter]
      simp
  · have hbelow := opensBelow_placesFrom (min limit 256) [] s.tokens none
    rw [← hplaces] at hbelow
    have hchildren : OpensBelow (min limit 256) (Node.listPlaces s.keyword.toList.length [] s.children) :=
      fun t isCall r hmem => hbelow t isCall r (by simp [Statement.places, hmem])
    exact Node.listDepth_add_le s.keyword.toList.length (Nat.zero_le _) s.children hchildren

def nestedCall : List Token :=
  [⟨.identifier, "f", ⟨0, 1⟩, [], [], none⟩, ⟨.leftParen, "(", ⟨1, 2⟩, [], [], none⟩,
    ⟨.leftParen, "(", ⟨2, 3⟩, [], [], none⟩, ⟨.identifier, "a", ⟨3, 4⟩, [], [], none⟩,
    ⟨.rightParen, ")", ⟨4, 5⟩, [], [], none⟩, ⟨.semicolon, ";", ⟨5, 6⟩, [], [], none⟩]

/-- Under a limit of one the inner parentheses are leaves, and the semicolon leaves the call open. -/
theorem places_nestedCall : ∃ s, (assemble 1 nestedCall).items = [] ++ .statement s :: [] ∧
    s.tokens = nestedCall ∧ s.places = placesFrom 1 [] none s.tokens ∧ stillOpen s.tokens = [1] ∧
    s.terminator ≠ none ∧ Node.listDepth s.children ≤ 1 := by
  refine ⟨_, rfl, rfl, ?_⟩
  have hitems : (assemble 1 nestedCall).items = [] ++ .statement _ :: [] := rfl
  obtain ⟨hplaces, -, hdepth⟩ := statement_places_eq hitems
  refine ⟨hplaces, rfl, ?_, hdepth⟩
  simp

end LoadScript
