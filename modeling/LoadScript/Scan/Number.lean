import LoadScript.Token
import LoadScript.Word

set_option autoImplicit false
set_option relaxedAutoImplicit false

namespace LoadScript

def frontDigits (text : List Char) : List Char :=
  text.takeWhile isDigit

def frontSign (text : List Char) : List Char :=
  match text.head? with
  | some '+' => ['+']
  | some '-' => ['-']
  | _ => []

def frontExponent : List Char → List Char
  | [] => []
  | c :: rest =>
    let sign := frontSign rest
    let digits := frontDigits (rest.drop sign.length)
    if (c = 'e' ∨ c = 'E') ∧ digits ≠ [] then c :: sign ++ digits else []

/-- The point at the front of a text with the digits behind it, empty if there are none. -/
def frontFraction : List Char → List Char
  | [] => []
  | c :: rest => if c = '.' ∧ frontDigits rest ≠ [] then c :: frontDigits rest else []

/-- The number at the front of a text that starts with a digit, and its form. -/
def frontNumber (text : List Char) : NumberForm × List Char :=
  let digits := frontDigits text
  let fraction := frontFraction (text.drop digits.length)
  if fraction = [] then (.integer, digits)
  else
    (.float, digits ++ fraction ++ frontExponent (text.drop (digits.length + fraction.length)))

end LoadScript
