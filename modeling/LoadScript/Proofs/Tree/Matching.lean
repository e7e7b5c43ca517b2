import LoadScript.Proofs.Tree.Places

set_option autoImplicit false
set_option relaxedAutoImplicit false

namespace LoadScript

namespace Matching

def stillOpenAfter (position : Nat) (opens : List Nat) (t : Token) : List Nat :=
  match t.kind with
  | .leftParen => position :: opens
  | .rightParen => opens.tail
  | _ => opens

def stillOpenFrom (position : Nat) (opens : List Nat) : List Token → List Nat
  | [] => opens
  | t :: rest => stillOpenFrom (position + 1) (stillOpenAfter position opens t) rest

/-- The positions of the parentheses unclosed behind the first tokens of a statement, innermost first. -/
def stillOpen (before : List Token) : List Nat :=
  stillOpenFrom 0 [] before

/-- The unclosed parentheses that have fewer unclosed ones around them than the limit. -/
def kept (limit : Nat) (opens : List Nat) : List Nat :=
  opens.drop (opens.length - limit)

/-- The place of a token by the tokens of its statement in front of it and the token behind it. -/
def placeOf (limit : Nat) (before : List Token) (t : Token) (next : Option Token) : TokenPlace :=
  let opens := stillOpen before
  if t.kind = .semicolon then .terminator
  else if before = [] ∧ t.kind.statementClass ≠ .expression then .keyword
  else match t.kind, opens with
    | .leftParen, _ =>
      if opens.length < limit then .opening (before.getLast?.any fun u => u.kind == .identifier) opens
      else .leaf "Punctuation" (kept limit opens)
    | .rightParen, [] => .leaf "Punctuation" []
    | .rightParen, node :: outer =>
      if outer.length < limit then .closing node else .leaf "Punctuation" (kept limit opens)
    | .identifier, _ =>
      if opens.length < limit ∧ (next.any fun u => u.kind == .leftParen) then .callName opens
      else .leaf "Identifier" (kept limit opens)
    | kind, _ => .leaf kind.leafName (kept limit opens)

/-- The tokens of a statement with the places that matching parentheses gives them, behind some tokens of the
statement and in front of a token. -/
def placesFrom (limit : Nat) (before : List Token) (next : Option Token) :
    List Token → List (Token × TokenPlace)
  | [] => []
  | t :: rest =>
    (t, placeOf limit before t (rest.head?.or next)) :: placesFrom limit (before ++ [t]) next rest

end Matching

namespace Matching

variable {limit : Nat} {before ts : List Token} {t : Token} {next : Option Token}

theorem stillOpenFrom_append (position : Nat) (opens : List Nat) (ts : List Token) (t : Token) :
    stillOpenFrom position opens (ts ++ [t]) =
      stillOpenAfter (position + ts.length) (stillOpenFrom position opens ts) t := by
  induction ts generalizing position opens with
  | nil => rfl
  | cons u rest ih =>
    rw [List.cons_append, stillOpenFrom, ih, stillOpenFrom, List.length_cons, Nat.add_assoc,
      Nat.add_comm 1]

theorem stillOpen_append (before : List Token) (t : Token) :
    stillOpen (before ++ [t]) = stillOpenAfter before.length (stillOpen before) t := by
  rw [stillOpen, stillOpenFrom_append, Nat.zero_add]
  rfl

theorem stillOpenAfter_of_ne (hleft : t.kind ≠ .leftParen) (hright : t.kind ≠ .rightParen)
    (position : Nat) (opens : List Nat) : stillOpenAfter position opens t = opens := by
  unfold stillOpenAfter
  split
  · next hkind => exact absurd hkind hleft
  · next hkind => exact absurd hkind hright
  · rfl

theorem placesFrom_append (limit : Nat) (before ts : List Token) (t : Token) (next : Option Token) :
    placesFrom limit before next (ts ++ [t]) =
      placesFrom limit before (some t) ts ++ [(t, placeOf limit (before ++ ts) t next)] := by
  induction ts generalizing before with
  | nil => simp [placesFrom]
  | cons u rest ih =>
    have hhead : (rest ++ [t]).head?.or next = rest.head?.or (some t) := by
      cases rest <;> rfl
    rw [List.cons_append, placesFrom, ih, placesFrom, hhead, List.append_assoc]
    rfl

theorem placeOf_leftParen (ht : t.kind = .leftParen) :
    placeOf limit before t next =
      if (stillOpen before).length < limit then
        .opening (before.getLast?.any fun u => u.kind == .identifier) (stillOpen before)
      else .leaf "Punctuation" (kept limit (stillOpen before)) := by
  simp [placeOf, ht, TokenKind.statementClass]

theorem placeOf_rightParen_of_nil (ht : t.kind = .rightParen) (hopens : stillOpen before = []) :
    placeOf limit before t next = .leaf "Punctuation" [] := by
  simp [placeOf, ht, TokenKind.statementClass, hopens]

theorem placeOf_rightParen_of_cons (ht : t.kind = .rightParen) {node : Nat} {outer : List Nat}
    (hopens : stillOpen before = node :: outer) :
    placeOf limit before t next =
      if outer.length < limit then .closing node
      else .leaf "Punctuation" (kept limit (stillOpen before)) := by
  simp [placeOf, ht, TokenKind.statementClass, hopens]

theorem placeOf_identifier (ht : t.kind = .identifier) :
    placeOf limit before t next =
      if (stillOpen before).length < limit ∧ (next.any fun u => u.kind == .leftParen) then
        .callName (stillOpen before)
      else .leaf "Identifier" (kept limit (stillOpen before)) := by
  simp [placeOf, ht, TokenKind.statementClass]

theorem placeOf_semicolon (ht : t.kind = .semicolon) : placeOf limit before t next = .terminator := by
  simp [placeOf, ht]

theorem placeOf_keyword (ht : t.kind.statementClass ≠ .expression) :
    placeOf limit [] t next = .keyword := by
  have hsemicolon : t.kind ≠ .semicolon := by
    intro h
    rw [h] at ht
    exact ht rfl
  simp [placeOf, ht, hsemicolon]

theorem placeOf_other (hleft : t.kind ≠ .leftParen) (hright : t.kind ≠ .rightParen)
    (hsemicolon : t.kind ≠ .semicolon) (hkeyword : before = [] → t.kind.statementClass = .expression) :
    placeOf limit before t none = .leaf t.kind.leafName (kept limit (stillOpen before)) := by
  have hnot : ¬(before = [] ∧ t.kind.statementClass ≠ .expression) :=
    fun h => h.2 (hkeyword h.1)
  unfold placeOf
  rw [if_neg hsemicolon, if_neg hnot]
  split
  · next h => exact absurd h hleft
  · next h _ => exact absurd h hright
  · next h _ => exact absurd h hright
  · next h => simp [h, TokenKind.leafName]
  · rfl

theorem length_lt_of_placeOf_eq_opening {isCall : Bool} {around : List Nat}
    (h : placeOf limit before t next = .opening isCall around) : around.length < limit := by
  unfold placeOf at h
  dsimp only at h
  split at h
  · cases h
  · split at h
    · cases h
    · split at h
      · split at h
        · next hlt =>
          cases h
          exact hlt
        · cases h
      · cases h
      · split at h <;> cases h
      · split at h <;> cases h
      · cases h

theorem placeOf_eq_of_ne_identifier (h : t.kind ≠ .identifier) :
    placeOf limit before t next = placeOf limit before t none := by
  unfold placeOf
  dsimp only
  split
  · rfl
  · split
    · rfl
    · split
      · rfl
      · rfl
      · rfl
      · next hkind => exact absurd hkind h
      · rfl

/-- The token behind some tokens matters to their places only if it turns a name into the name of a call. -/
theorem placesFrom_eq_of_not_call
    (h : ∀ u, ts.getLast? = some u → u.kind = .identifier →
      (next.any fun v => v.kind == .leftParen) = true → limit ≤ (stillOpen ts).length) :
    placesFrom limit [] next ts = placesFrom limit [] none ts := by
  rcases ts.eq_nil_or_concat with rfl | ⟨us, u, hconcat⟩
  · rfl
  · obtain rfl : ts = us ++ [u] := by rw [hconcat, List.concat_eq_append]
    rw [placesFrom_append, placesFrom_append, List.nil_append]
    by_cases hname : u.kind = .identifier
    · have hopen : stillOpen (us ++ [u]) = stillOpen us := by
        rw [stillOpen_append, stillOpenAfter, hname]
      have hnot : ¬((stillOpen us).length < limit ∧ (next.any fun v => v.kind == .leftParen) = true) := by
        rintro ⟨hlt, hnext⟩
        have hle := h u List.getLast?_concat hname hnext
        rw [hopen] at hle
        omega
      rw [placeOf_identifier hname, placeOf_identifier hname, if_neg hnot, if_neg (by simp)]
    · rw [placeOf_eq_of_ne_identifier hname]

theorem placesFrom_some_eq (h : t.kind = .leftParen → limit ≤ (stillOpen ts).length) :
    placesFrom limit [] (some t) ts = placesFrom limit [] none ts :=
  placesFrom_eq_of_not_call fun _ _ _ hnext => h (by simpa using hnext)

theorem opensBelow_placesFrom (limit : Nat) (before ts : List Token) (next : Option Token) :
    OpensBelow limit (placesFrom limit before next ts) := by
  induction ts generalizing before with
  | nil => exact fun _ _ _ h => absurd h List.not_mem_nil
  | cons t rest ih =>
    intro u isCall around hmem
    rcases List.mem_cons.1 hmem with hhead | hmem
    · obtain ⟨-, hplace⟩ := Prod.mk.inj hhead
      exact length_lt_of_placeOf_eq_opening hplace.symm
    · exact ih (before ++ [t]) u isCall around hmem

end Matching

end LoadScript
