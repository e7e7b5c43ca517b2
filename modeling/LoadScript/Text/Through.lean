set_option autoImplicit false
set_option relaxedAutoImplicit false

namespace LoadScript.Text

/-- Splits a text after the first occurrence of a character; there is no split if it does not occur. -/
def throughChar? (close : Char) : List Char → Option (List Char × List Char)
  | [] => none
  | c :: rest =>
    if c = close then some ([c], rest)
    else (throughChar? close rest).map fun (body, after) => (c :: body, after)

def throughStarSlash? : List Char → Option (List Char × List Char)
  | [] => none
  | c :: rest =>
    if c = '*' ∧ rest.head? = some '/' then some (['*', '/'], rest.tail)
    else (throughStarSlash? rest).map fun (body, after) => (c :: body, after)

theorem append_of_throughChar? {close : Char} {text body after : List Char}
    (h : throughChar? close text = some (body, after)) : body ++ after = text := by
  induction text generalizing body with
  | nil => simp [throughChar?] at h
  | cons c rest ih =>
    unfold throughChar? at h
    split at h
    · obtain ⟨rfl, rfl⟩ : [c] = body ∧ rest = after := by simpa using h
      rfl
    · obtain ⟨⟨front, back⟩, hrest, hsame⟩ := Option.map_eq_some_iff.1 h
      obtain ⟨rfl, rfl⟩ : c :: front = body ∧ back = after := by simpa using hsame
      simp [ih hrest]

theorem append_of_throughStarSlash? {text body after : List Char}
    (h : throughStarSlash? text = some (body, after)) : body ++ after = text := by
  induction text generalizing body with
  | nil => simp [throughStarSlash?] at h
  | cons c rest ih =>
    unfold throughStarSlash? at h
    split at h
    · next hmark =>
      obtain ⟨rfl, hslash⟩ := hmark
      obtain ⟨rfl, rfl⟩ : ['*', '/'] = body ∧ rest.tail = after := by simpa using h
      cases rest with
      | nil => simp at hslash
      | cons d more =>
        obtain rfl : d = '/' := by simpa using hslash
        rfl
    · obtain ⟨⟨front, back⟩, hrest, hsame⟩ := Option.map_eq_some_iff.1 h
      obtain ⟨rfl, rfl⟩ : c :: front = body ∧ back = after := by simpa using hsame
      simp [ih hrest]

theorem length_le_of_throughChar? {close : Char} {text body after : List Char}
    (h : throughChar? close text = some (body, after)) : after.length ≤ text.length := by
  simp [← append_of_throughChar? h]

theorem length_le_of_throughStarSlash? {text body after : List Char}
    (h : throughStarSlash? text = some (body, after)) : after.length ≤ text.length := by
  simp [← append_of_throughStarSlash? h]

theorem length_lt_of_throughChar? {close : Char} {text body after : List Char}
    (h : throughChar? close text = some (body, after)) : after.length < text.length := by
  induction text generalizing body with
  | nil => simp [throughChar?] at h
  | cons c rest ih =>
    rw [throughChar?] at h
    split at h
    · obtain ⟨rfl, rfl⟩ := Prod.mk.inj (Option.some.inj h)
      simp
    · obtain ⟨⟨front, back⟩, hrest, hsame⟩ := Option.map_eq_some_iff.1 h
      obtain ⟨rfl, rfl⟩ := Prod.mk.inj hsame
      exact Nat.lt_succ_of_lt (ih hrest)

end LoadScript.Text
