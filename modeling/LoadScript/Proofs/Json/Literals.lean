import Mathlib.Tactic.SplitIfs
import LoadScript.Json.Lexical
import LoadScript.Json.Value

set_option autoImplicit false
set_option relaxedAutoImplicit false

namespace LoadScript.Json

open Text

theorem hexDigit?_digitChar : ∀ d < 16, hexDigit? (Nat.digitChar d) = some d := by
  decide

theorem hexQuad_low {high low : Nat} (hhigh : high < 16) (hlow : low < 16) (rest : List Char) :
    hexQuad ('0' :: '0' :: Nat.digitChar high :: Nat.digitChar low :: rest) = .ok (16 * high + low, rest) := by
  have hbytes : ¬byteLength ['0', '0', Nat.digitChar high, Nat.digitChar low] < 4 := by
    have hhighSize := (Nat.digitChar high).utf8Size_pos
    have hlowSize := (Nat.digitChar low).utf8Size_pos
    have hzero : Char.utf8Size '0' = 1 := rfl
    simp only [byteLength]
    omega
  have hnumber : hexNumber? ['0', '0', Nat.digitChar high, Nat.digitChar low] = some (16 * high + low) := by
    have hzero : hexDigit? '0' = some 0 := rfl
    simp [hexNumber?, hzero, hexDigit?_digitChar high hhigh, hexDigit?_digitChar low hlow]
  rw [hexQuad]
  simp only [List.take_succ_cons, List.take_zero, List.drop_succ_cons, List.drop_zero, List.length_cons]
  rw [if_neg hbytes, if_neg (by omega), hnumber]

theorem numericEscape_control {c : Char} (h : c.toNat < 0x20) (rest : List Char) :
    numericEscape ('0' :: '0' :: Nat.digitChar (c.toNat / 16) :: Nat.digitChar (c.toNat % 16) :: rest) =
      .ok (c, rest) := by
  have hnumber : 16 * (c.toNat / 16) + c.toNat % 16 = c.toNat := Nat.div_add_mod c.toNat 16
  have hnotLow : isLowSurrogate c.toNat = false := decide_eq_false (by omega)
  have hnotHigh : isHighSurrogate c.toNat = false := decide_eq_false (by omega)
  rw [numericEscape, hexQuad_low (by omega) (by omega), hnumber]
  simp [hnotLow, hnotHigh]

theorem stringBody_backslash {front rest : List Char} {c : Char} (h : escape front = .ok (c, rest)) :
    stringBody ('\\' :: front) = (stringBody rest).map fun p => (c :: p.1, p.2) := by
  rw [stringBody, if_neg (by decide), if_pos rfl]
  split
  · next fault hfault => cases h.symm.trans hfault
  · next d after hafter =>
    obtain ⟨rfl, rfl⟩ := Prod.mk.inj (Except.ok.inj (h.symm.trans hafter))
    rfl

theorem stringBody_escaped (c : Char) (rest : List Char) :
    stringBody (escaped c ++ rest) = (stringBody rest).map fun p => (c :: p.1, p.2) := by
  unfold escaped
  split_ifs with hquote hbackslash hbackspace hfeed hnewline hreturn htab hcontrol
  · subst hquote
    exact stringBody_backslash rfl
  · subst hbackslash
    exact stringBody_backslash rfl
  · subst hbackspace
    exact stringBody_backslash rfl
  · subst hfeed
    exact stringBody_backslash rfl
  · subst hnewline
    exact stringBody_backslash rfl
  · subst hreturn
    exact stringBody_backslash rfl
  · subst htab
    exact stringBody_backslash rfl
  · exact stringBody_backslash (numericEscape_control hcontrol rest)
  · rw [List.singleton_append, stringBody, if_neg hquote, if_neg hbackslash, if_neg hcontrol]

/-- Behind its opening quote, the literal of a text gives the text again. -/
theorem stringBody_flatMap_escaped (text rest : List Char) :
    stringBody (text.flatMap escaped ++ '"' :: rest) = .ok (text, rest) := by
  induction text with
  | nil => rw [List.flatMap_nil, List.nil_append, stringBody, if_pos rfl]
  | cons c text ih => rw [List.flatMap_cons, List.append_assoc, stringBody_escaped, ih]; rfl

theorem literal_append (text : String) (rest : List Char) :
    literal text ++ rest = '"' :: (text.toList.flatMap escaped ++ '"' :: rest) := by
  rw [literal, List.cons_append, List.cons_append, List.append_assoc, List.singleton_append]

end LoadScript.Json
