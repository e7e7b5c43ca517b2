import LoadScript.Unicode.Alphabetic
import LoadScript.Unicode.Numeric

set_option autoImplicit false
set_option relaxedAutoImplicit false

namespace LoadScript

open Unicode

def isWordStart (c : Char) : Bool :=
  isAlphabetic c || c == '_' || c == '#' || c == '%'

def isWordPart (c : Char) : Bool :=
  isAlphabetic c || isNumeric c || c == '_' || c == '#' || c == '%' || c == '.'

def isDigit (c : Char) : Bool :=
  decide ('0' ≤ c ∧ c ≤ '9')

def isComparisonSign (c : Char) : Bool :=
  c == '<' || c == '>' || c == '='

/-- Holds of the arithmetic signs, the string joiner among them. -/
def isArithmeticSign (c : Char) : Bool :=
  c == '&' || c == '+' || c == '-' || c == '*' || c == '/'

/-- The word at the front of a text, empty if no word starts there. -/
def frontWord : List Char → List Char
  | [] => []
  | c :: rest => if isWordStart c then c :: rest.takeWhile isWordPart else []

def afterWord : List Char → List Char
  | [] => []
  | c :: rest => if isWordStart c then rest.dropWhile isWordPart else c :: rest

def isWholeWord (text : List Char) : Bool :=
  !text.isEmpty && (afterWord text).isEmpty

@[simp]
theorem frontWord_append_afterWord (text : List Char) : frontWord text ++ afterWord text = text := by
  cases text with
  | nil => rfl
  | cons c rest =>
    by_cases h : isWordStart c = true <;> simp [frontWord, afterWord, h]

theorem length_afterWord_lt {text : List Char} (h : frontWord text ≠ []) :
    (afterWord text).length < text.length := by
  have hlength := congrArg List.length (frontWord_append_afterWord text)
  have hpos := List.length_pos_iff.2 h
  simp only [List.length_append] at hlength
  omega

end LoadScript
