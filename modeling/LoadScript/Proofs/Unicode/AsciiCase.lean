import LoadScript.Proofs.Unicode.Characters
import LoadScript.Text.Bytes

set_option autoImplicit false
set_option relaxedAutoImplicit false

namespace LoadScript.Unicode

private theorem letter_forms : ∀ n ∈ List.range' 65 26, (Char.ofNat n).toLower = Char.ofNat (n + 32) ∧
    isWordStart (Char.ofNat n) = true ∧ isWordStart (Char.ofNat (n + 32)) = true := by
  decide +kernel

theorem toLower_cases (c : Char) :
    c.toLower = c ∨ ∃ n ∈ List.range' 65 26, c = Char.ofNat n ∧ c.toLower = Char.ofNat (n + 32) := by
  by_cases h : c.val ≥ 'A'.val ∧ c.val ≤ 'Z'.val
  · obtain ⟨hlow, hhigh⟩ := h
    have hmem : c.toNat ∈ List.range' 65 26 := by
      rw [List.mem_range'_1]
      exact ⟨UInt32.le_iff_toNat_le.1 hlow, Nat.lt_succ_of_le (UInt32.le_iff_toNat_le.1 hhigh)⟩
    have hlower := (letter_forms c.toNat hmem).1
    rw [Char.ofNat_toNat] at hlower
    exact Or.inr ⟨c.toNat, hmem, (Char.ofNat_toNat c).symm, hlower⟩
  · exact Or.inl (dif_neg h)

theorem apply_toLower {α : Type} (f : Char → α)
    (h : ∀ n ∈ List.range' 65 26, f (Char.ofNat (n + 32)) = f (Char.ofNat n)) (c : Char) :
    f c.toLower = f c := by
  rcases toLower_cases c with hsame | ⟨n, hn, hc, hlower⟩
  · rw [hsame]
  · rw [hlower, hc, h n hn]

/-- What is asked about a character somewhere, and does not depend on the case of ASCII letters. -/
structure CharClasses where
  isWhiteSpace : Bool
  isWordStart : Bool
  isWordPart : Bool
  isDigit : Bool
  isCased : Bool
  isCaseIgnorable : Bool
  isSigma : Bool
  isE : Bool
  isR : Bool
  isM : Bool
  lower : List Char
  size : Nat
  deriving DecidableEq

def classesOf (c : Char) : CharClasses where
  isWhiteSpace := isWhiteSpace c
  isWordStart := isWordStart c
  isWordPart := isWordPart c
  isDigit := isDigit c
  isCased := isCased c
  isCaseIgnorable := isCaseIgnorable c
  isSigma := c == 'Σ'
  isE := c == 'e' || c == 'E'
  isR := c == 'r' || c == 'R'
  isM := c == 'm' || c == 'M'
  lower := lowerChar c
  size := c.utf8Size

theorem classesOf_toLower (c : Char) : classesOf c.toLower = classesOf c :=
  apply_toLower classesOf (by decide +kernel) c

@[simp]
theorem isWhiteSpace_toLower (c : Char) : isWhiteSpace c.toLower = isWhiteSpace c :=
  congrArg CharClasses.isWhiteSpace (classesOf_toLower c)

@[simp]
theorem isWordStart_toLower (c : Char) : isWordStart c.toLower = isWordStart c :=
  congrArg CharClasses.isWordStart (classesOf_toLower c)

@[simp]
theorem isWordPart_toLower (c : Char) : isWordPart c.toLower = isWordPart c :=
  congrArg CharClasses.isWordPart (classesOf_toLower c)

@[simp]
theorem isDigit_toLower (c : Char) : isDigit c.toLower = isDigit c :=
  congrArg CharClasses.isDigit (classesOf_toLower c)

theorem isCased_toLower (c : Char) : isCased c.toLower = isCased c :=
  congrArg CharClasses.isCased (classesOf_toLower c)

theorem isCaseIgnorable_toLower (c : Char) : isCaseIgnorable c.toLower = isCaseIgnorable c :=
  congrArg CharClasses.isCaseIgnorable (classesOf_toLower c)

theorem lowerChar_toLower (c : Char) : lowerChar c.toLower = lowerChar c :=
  congrArg CharClasses.lower (classesOf_toLower c)

theorem utf8Size_toLower (c : Char) : c.toLower.utf8Size = c.utf8Size :=
  congrArg CharClasses.size (classesOf_toLower c)

theorem toLower_eq_iff {c d : Char} (hd : isWordStart d = false) : c.toLower = d ↔ c = d := by
  rcases toLower_cases c with hsame | ⟨n, hn, rfl, hlower⟩
  · rw [hsame]
  · obtain ⟨-, hupper, hlower'⟩ := letter_forms n hn
    rw [← hlower] at hlower'
    constructor
    · rintro rfl
      exact absurd (hd.symm.trans hlower') Bool.false_ne_true
    · rintro rfl
      exact absurd (hd.symm.trans hupper) Bool.false_ne_true

theorem toLower_eq_self {c : Char} (hc : isWordStart c = false) : c.toLower = c :=
  (toLower_eq_iff hc).2 rfl

theorem meetsCased_map_toLower (text : List Char) : meetsCased (text.map Char.toLower) = meetsCased text := by
  induction text with
  | nil => rfl
  | cons c rest ih => rw [List.map_cons, meetsCased, isCaseIgnorable_toLower, isCased_toLower, ih, meetsCased]

theorem toLower_eq_sigma_iff (c : Char) : c.toLower = 'Σ' ↔ c = 'Σ' := by
  have h := congrArg CharClasses.isSigma (classesOf_toLower c)
  rw [Bool.eq_iff_iff] at h
  simpa [classesOf] using h

theorem lowercaseAfter_map_toLower (before text : List Char) :
    lowercaseAfter (before.map Char.toLower) (text.map Char.toLower) = lowercaseAfter before text := by
  induction text generalizing before with
  | nil => rfl
  | cons c rest ih =>
    have hrest := ih (c :: before)
    rw [List.map_cons] at hrest
    simp only [List.map_cons, lowercaseAfter, hrest, toLower_eq_sigma_iff, lowerSigma, meetsCased_map_toLower,
      lowerChar_toLower]

/-- Lower case forgets the case of ASCII letters, also where a sigma depends on its neighbours. -/
@[simp]
theorem lowercase_map_toLower (text : List Char) : lowercase (text.map Char.toLower) = lowercase text :=
  lowercaseAfter_map_toLower [] text

end LoadScript.Unicode

namespace LoadScript.Text

open Unicode

@[simp]
theorem byteLength_map_toLower (text : List Char) : byteLength (text.map Char.toLower) = byteLength text := by
  induction text with
  | nil => rfl
  | cons c rest ih => rw [List.map_cons, byteLength, utf8Size_toLower, ih, byteLength]

end LoadScript.Text
