import LoadScript.Unicode.ExtendingMark
import LoadScript.Unicode.Unprintable

set_option autoImplicit false
set_option relaxedAutoImplicit false

namespace LoadScript.Text

open Unicode

/-- The escape of a character by its code point in lower-case hexadecimal digits. -/
def codePointEscape (c : Char) : List Char :=
  ['\\', 'u', '\x7b'] ++ Nat.toDigits 16 c.toNat ++ ['\x7d']

def escaped (quote c : Char) : List Char :=
  if c = '\x00' then ['\\', '0']
  else if c = '\t' then ['\\', 't']
  else if c = '\r' then ['\\', 'r']
  else if c = '\n' then ['\\', 'n']
  else if c = '\\' ∨ c = quote then ['\\', c]
  else if isExtendingMark c || isUnprintable c then codePointEscape c
  else [c]

def quoted (text : List Char) : List Char :=
  '"' :: text.flatMap (escaped '"') ++ ['"']

def quotedChar (c : Char) : List Char :=
  '\'' :: escaped '\'' c ++ ['\'']

def quote (text : String) : String :=
  String.ofList (quoted text.toList)

end LoadScript.Text
