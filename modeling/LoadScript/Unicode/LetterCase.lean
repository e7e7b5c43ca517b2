import LoadScript.Unicode.Cased
import LoadScript.Unicode.CaseTable

/-!
Full lower and upper case of a text. Upper case looks at each character alone. Lower case also does, but for
the capital sigma, which is written with its final form at the end of a word.
-/

set_option autoImplicit false
set_option relaxedAutoImplicit false

namespace LoadScript.Unicode

/-- Holds if the first character that case does not ignore is cased. -/
def meetsCased : List Char → Bool
  | [] => false
  | c :: rest => if isCaseIgnorable c then meetsCased rest else isCased c

/-- The lower-case sigma between the characters before it, nearest first, and those after it. -/
def lowerSigma (before after : List Char) : Char :=
  if meetsCased before && !meetsCased after then 'ς' else 'σ'

/-- Lower case of a text that follows the given characters, nearest first. -/
def lowercaseAfter (before : List Char) : List Char → List Char
  | [] => []
  | c :: rest =>
    (if c = 'Σ' then [lowerSigma before rest] else lowerChar c) ++ lowercaseAfter (c :: before) rest

def lowercase (text : List Char) : List Char :=
  lowercaseAfter [] text

def uppercase (text : List Char) : List Char :=
  text.flatMap upperChar

end LoadScript.Unicode
