/-!
The range of double precision. A number with a scale is read as a product: its leading digits that fit into 64 bits
and the power of ten are each rounded to double precision, and so is what they give together. A number is refused
if that goes beyond the greatest double, even where the exact value would not.
-/

set_option autoImplicit false
set_option relaxedAutoImplicit false

namespace LoadScript.Json

/-- The nearest number with at most 53 significant bits; of two equally near ones, the one whose last bit is zero. -/
def roundToDouble (n : Nat) : Nat :=
  let unit := Nat.pow 2 (n.log2 - 52)
  let quotient := n / unit
  let rest := n % unit
  if unit < 2 * rest ∨ (unit = 2 * rest ∧ quotient % 2 = 1) then (quotient + 1) * unit else quotient * unit

/-- The least number beyond all doubles, in the steps of the greatest of them. -/
def doubleBound : Nat := Nat.pow 2 1024

/-- The greatest power of ten that is a double. -/
def greatestPower : Nat := 308

/-- Holds if a significand of at most 64 bits times a power of ten goes beyond the doubles. -/
def isTooLarge (significand : Nat) (power : Int) : Bool :=
  match power with
  | .negSucc _ => false
  | .ofNat power =>
    if significand = 0 then false
    else if greatestPower < power then true
    else decide (doubleBound ≤ roundToDouble (roundToDouble significand * roundToDouble (Nat.pow 10 power)))

end LoadScript.Json
