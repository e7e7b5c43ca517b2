import LoadScript.Proofs.Json.Numbers

set_option autoImplicit false
set_option relaxedAutoImplicit false

namespace LoadScript.Json

variable {α β σ : Type} {text rest : List Char}

theorem exists_of_bind {x : Except Fault α} {f : α → Except Fault β} {b : β} (h : x >>= f = .ok b) :
    ∃ a, x = .ok a ∧ f a = .ok b := by
  cases x with
  | error fault => cases h
  | ok a => exact ⟨a, rfl, h⟩

theorem exists_of_map {x : Except Fault α} {f : α → β} {b : β} (h : x.map f = .ok b) : ∃ a, x = .ok a ∧ f a = b := by
  cases x with
  | error fault => cases h
  | ok a => exact ⟨a, rfl, Except.ok.inj h⟩

/-- Holds of a field that leaves a property of the record as it is. -/
def FieldReader.Keeps (P : σ → Prop) (field : FieldReader σ) : Prop :=
  ∀ r text last rest, P r → field.read r text = .ok (last, rest) → P last

theorem keeps_optionField {P : σ → Prop} {name : String} {get : σ → Option α} {set : σ → α → σ} {reader : Reader α}
    (h : ∀ r text value rest, P r → reader text = .ok (value, rest) → P (set r value)) :
    (optionField name get set reader).Keeps P := by
  intro r text last rest hr hread
  obtain ⟨⟨value, after⟩, hvalue, heq⟩ := exists_of_map hread
  obtain ⟨rfl, -⟩ := Prod.mk.inj heq
  exact h r text value after hr hvalue

variable {P : σ → Prop} {fields : List (FieldReader σ)} {r last : σ} {first : Bool}

theorem of_members (hfields : ∀ field ∈ fields, field.Keeps P) {fuel : Nat} (hr : P r)
    (h : members fields fuel first r text = .ok (last, rest)) : P last := by
  induction fuel generalizing first r text with
  | zero => cases h
  | succ fuel ih =>
    rw [members] at h
    obtain ⟨⟨name, after⟩, -, h⟩ := exists_of_bind h
    cases name with
    | none =>
      obtain ⟨rfl, -⟩ := Prod.mk.inj (Except.ok.inj h)
      exact hr
    | some name =>
      dsimp only at h
      split at h
      · -- a member of an unknown name is passed over
        obtain ⟨colon, -, h⟩ := exists_of_bind h
        obtain ⟨passed, -, h⟩ := exists_of_bind h
        exact ih hr h
      · next field hfield =>
        split at h
        · cases h
        · obtain ⟨colon, -, h⟩ := exists_of_bind h
          obtain ⟨⟨next, behind⟩, hread, h⟩ := exists_of_bind h
          exact ih (hfields field (List.mem_of_find?_eq_some hfield) _ _ _ _ hr hread) h

theorem of_positions (hfields : ∀ field ∈ fields, field.Keeps P) (hr : P r)
    (h : positions fields first r text = .ok (last, rest)) : P last := by
  induction fields generalizing first r text with
  | nil =>
    obtain ⟨rfl, -⟩ := Prod.mk.inj (Except.ok.inj h)
    exact hr
  | cons field fields ih =>
    obtain ⟨hfield, hrest⟩ := List.forall_mem_cons.1 hfields
    rw [positions] at h
    obtain ⟨front, -, h⟩ := exists_of_bind h
    cases front with
    | none =>
      obtain ⟨rfl, -⟩ := Prod.mk.inj (Except.ok.inj h)
      exact hr
    | some front =>
      obtain ⟨⟨next, after⟩, hread, h⟩ := exists_of_bind h
      exact ih hrest (hfield _ _ _ _ hr hread) h

theorem of_record (hfields : ∀ field ∈ fields, field.Keeps P) (hr : P r)
    (h : record fields r some text = .ok (last, rest)) : P last := by
  rw [record] at h
  dsimp only at h
  split at h
  · obtain ⟨⟨read, after⟩, hread, h⟩ := exists_of_bind h
    obtain ⟨_, -, h⟩ : ∃ behind, endArray after = .ok behind ∧ Except.ok (read, behind) = Except.ok (last, rest) :=
      exists_of_bind h
    obtain ⟨rfl, -⟩ := Prod.mk.inj (Except.ok.inj h)
    exact of_positions hfields hr hread
  · obtain ⟨⟨read, after⟩, hread, h⟩ := exists_of_bind h
    obtain ⟨rfl, -⟩ := Prod.mk.inj (Except.ok.inj h)
    exact of_members hfields hr hread
  · cases h

theorem of_document {reader : Reader α} {value : α} (h : document reader text = .ok value) :
    ∃ rest, reader text = .ok (value, rest) := by
  obtain ⟨⟨read, rest⟩, hread, h⟩ := exists_of_bind h
  dsimp only at h
  split at h
  · obtain rfl := Except.ok.inj h
    exact ⟨rest, hread⟩
  · cases h

theorem takeDigits_lt {digits : List Char} {value : Nat} (h : value < Nat.pow 2 64) :
    (takeDigits value digits).1 < Nat.pow 2 64 := by
  induction digits generalizing value with
  | nil => exact h
  | cons c rest ih =>
    rw [takeDigits]
    split
    · next hnext => exact ih hnext
    · exact h

variable {n : Nat}

theorem lt_of_unsignedNumber (h : unsignedNumber text = .ok (.natural n, rest)) : n < Nat.pow 2 64 := by
  obtain ⟨⟨whole, after⟩, -, h⟩ := exists_of_bind h
  obtain ⟨⟨fraction, after⟩, -, h⟩ := exists_of_bind h
  obtain ⟨⟨power, after⟩, -, h⟩ := exists_of_bind h
  dsimp only at h
  split at h
  · obtain ⟨hvalue, -⟩ := Prod.mk.inj (Except.ok.inj h)
    exact Numeral.natural.inj hvalue ▸ takeDigits_lt (by decide)
  · split at h <;> cases h

theorem lt_of_natural (h : natural text = .ok (n, rest)) : n < Nat.pow 2 64 := by
  rw [natural] at h
  split at h
  · cases h
  · split at h
    · split at h
      · next c more _ _ value after hnumber =>
        obtain ⟨rfl, -⟩ := Prod.mk.inj (Except.ok.inj h)
        rw [number.eq_def] at hnumber
        split at hnumber
        · obtain ⟨⟨numeral, after⟩, -, heq⟩ := exists_of_map hnumber
          cases heq
        · exact lt_of_unsignedNumber hnumber
      · cases h
      · cases h
    · cases h

end LoadScript.Json
