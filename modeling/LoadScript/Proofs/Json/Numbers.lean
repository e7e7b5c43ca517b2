import LoadScript.Proofs.Json.RoundTrip

set_option autoImplicit false
set_option relaxedAutoImplicit false

namespace LoadScript.Json

open Text

variable {α : Type}

theorem isDigit_of_mem_toDigits {n : Nat} : ∀ c ∈ Nat.toDigits 10 n, isDigit c = true := by
  have hdigits : ∀ d < 10, isDigit (Nat.digitChar d) = true := by decide
  intro c hc
  obtain ⟨d, hd, rfl⟩ := exists_lt_of_mem_toDigits (by decide) hc
  exact hdigits d hd

theorem head?_toDigits_ne_zero {n : Nat} (h : 0 < n) : (Nat.toDigits 10 n).head? ≠ some '0' := by
  have hdigits : ∀ d < 10, 0 < d → Nat.digitChar d ≠ '0' := by decide
  induction n using Nat.strongRecOn with
  | ind n ih =>
    rw [Nat.toDigits_eq_if (by decide)]
    split
    · next hlt => simpa using hdigits n hlt h
    · next hge =>
      obtain ⟨c, rest, hfront⟩ := List.exists_cons_of_ne_nil (Nat.toDigits_ne_nil : Nat.toDigits 10 (n / 10) ≠ [])
      have hhead := ih (n / 10) (by omega) (by omega)
      rw [hfront] at hhead ⊢
      exact hhead

theorem le_ofDigitChars (digits : List Char) (value : Nat) : value ≤ Nat.ofDigitChars 10 digits value := by
  induction digits generalizing value with
  | nil => exact Nat.le_refl value
  | cons c rest ih =>
    have hrest := ih (10 * value + (c.toNat - '0'.toNat))
    rw [Nat.ofDigitChars_cons]
    omega

/-- Digits are taken into a number as long as all of them together fit. -/
theorem takeDigits_eq {digits : List Char} {value : Nat} (h : Nat.ofDigitChars 10 digits value < Nat.pow 2 64) :
    takeDigits value digits = (Nat.ofDigitChars 10 digits value, []) := by
  induction digits generalizing value with
  | nil => rfl
  | cons c rest ih =>
    rw [Nat.ofDigitChars_cons] at h ⊢
    have hnext := Nat.lt_of_le_of_lt (le_ofDigitChars rest (10 * value + (c.toNat - '0'.toNat))) h
    rw [takeDigits]
    simp only [if_pos hnext]
    exact ih h

theorem EndsValue.classes {rest : List Char} (h : EndsValue rest) :
    ∀ c ∈ rest.head?, isDigit c = false ∧ c ≠ '.' ∧ ¬(c = 'e' ∨ c = 'E') := by
  intro c hc
  rcases h c hc with hblank | rfl
  · simp only [isBlank, Bool.or_eq_true, beq_iff_eq] at hblank
    rcases hblank with ((rfl | rfl) | rfl) | rfl <;> decide
  · decide

variable {n : Nat} {rest : List Char}

theorem spanDigits_toDigits (hrest : EndsValue rest) :
    spanDigits (Nat.toDigits 10 n ++ rest) = (Nat.toDigits 10 n, rest) := by
  have hstop : rest.takeWhile isDigit = [] ∧ rest.dropWhile isDigit = rest := by
    cases rest with
    | nil => exact ⟨rfl, rfl⟩
    | cons c more =>
      have hc := (hrest.classes c rfl).1
      exact ⟨List.takeWhile_cons_of_neg (ne_true_of_eq_false hc), List.dropWhile_cons_of_neg (ne_true_of_eq_false hc)⟩
  rw [spanDigits, List.takeWhile_append_of_pos isDigit_of_mem_toDigits,
    List.dropWhile_append_of_pos isDigit_of_mem_toDigits, hstop.1, hstop.2, List.append_nil]

theorem wholeDigits_toDigits (hrest : EndsValue rest) :
    wholeDigits (Nat.toDigits 10 n ++ rest) = .ok (Nat.toDigits 10 n, rest) := by
  have hspan := spanDigits_toDigits (n := n) hrest
  rcases Nat.eq_zero_or_pos n with rfl | hpos
  · have hnone : rest.head?.any isDigit = false := by
      rw [Option.any_eq_false]
      exact fun c hc => (hrest.classes c hc).1
    simp [wholeDigits, hnone]
  · obtain ⟨c, more, hdigits⟩ := List.exists_cons_of_ne_nil (Nat.toDigits_ne_nil : Nat.toDigits 10 n ≠ [])
    have hzero : c ≠ '0' := by
      have hhead := head?_toDigits_ne_zero hpos
      rw [hdigits] at hhead
      simpa using hhead
    have hdigit : isDigit c = true := isDigit_of_mem_toDigits c (hdigits ▸ List.mem_cons_self)
    rw [hdigits, List.cons_append] at hspan ⊢
    rw [wholeDigits, if_neg hzero, if_pos hdigit, hspan]

theorem unsignedNumber_toDigits (h : n < Nat.pow 2 64) (hrest : EndsValue rest) :
    unsignedNumber (Nat.toDigits 10 n ++ rest) = .ok (.natural n, rest) := by
  have hwhole := wholeDigits_toDigits (n := n) hrest
  have hfraction : fractionDigits rest = .ok ([], rest) := by
    cases rest with
    | nil => rfl
    | cons c more =>
      rw [fractionDigits]
      rintro _ ⟨⟩
      exact (hrest.classes _ rfl).2.1 rfl
  have hpower : exponent rest = .ok (none, rest) := by
    cases rest with
    | nil => rfl
    | cons c more => rw [exponent, if_neg (hrest.classes c rfl).2.2]
  have htake : takeDigits 0 (Nat.toDigits 10 n) = (n, []) := by
    have hvalue : Nat.ofDigitChars 10 (Nat.toDigits 10 n) 0 = n := Nat.ofDigitChars_toDigits (by decide) (by decide)
    have hbound : Nat.ofDigitChars 10 (Nat.toDigits 10 n) 0 < Nat.pow 2 64 := by rwa [hvalue]
    have htaken := takeDigits_eq hbound
    rwa [hvalue] at htaken
  simp [unsignedNumber, hwhole, hfraction, hpower, htake, bind, Except.bind]

theorem reads_natural (h : n < Nat.pow 2 64) : Reads natural n (.number n) := by
  intro level front rest hrest hfront
  rw [Value.indented] at hfront
  obtain ⟨c, more, hdigits⟩ := List.exists_cons_of_ne_nil (Nat.toDigits_ne_nil : Nat.toDigits 10 n ≠ [])
  have hdigit : isDigit c = true := isDigit_of_mem_toDigits c (hdigits ▸ List.mem_cons_self)
  have hunsigned := unsignedNumber_toDigits h hrest
  rw [hdigits, List.cons_append] at hfront hunsigned
  have hnumber : number (c :: (more ++ rest)) = .ok (.natural n, rest) := by
    rw [number]
    · exact hunsigned
    · rintro _ ⟨⟩
      exact absurd hdigit (by decide)
  simp [natural, hfront, hdigit, hnumber]

theorem reads_optional_none {reader : Reader α} : Reads (optional reader) none .null := by
  intro level front rest _ hfront
  simp only [optional, hfront]
  rfl

theorem reads_optional_some {reader : Reader α} {value : α} {text : String} (h : Reads reader value (.string text)) :
    Reads (optional reader) (some value) (.string text) := by
  intro level front rest hrest hfront
  have hvalue := h level _ rest hrest (skipBlanks_indented level (.string text) rest)
  rw [Value.indented, literal_append] at hfront hvalue
  simp [optional, hfront, hvalue, Except.map]

end LoadScript.Json
