import LoadScript.Json.DoubleRange
import LoadScript.Text.Bytes
import LoadScript.Word

/-!
The scalars of JSON as they are read from a text: white space, fixed words, string literals and numbers. Each
reader returns what it read and the text after it, or tells how the text fails: it breaks the rules of JSON, it
ends too early, or it is JSON that does not fit what is asked for.
-/

set_option autoImplicit false
set_option relaxedAutoImplicit false

namespace LoadScript.Json

open Text

inductive Fault where
  | malformed
  | truncated
  /-- The text is JSON, but not what is asked for. -/
  | mismatched
  deriving DecidableEq

/-- A reader of something at the front of a text. -/
abbrev Reader (α : Type) := List Char → Except Fault (α × List Char)

/-- Holds of the white space of JSON. -/
def isBlank (c : Char) : Bool :=
  c == ' ' || c == '\n' || c == '\t' || c == '\r'

def skipBlanks (text : List Char) : List Char :=
  text.dropWhile isBlank

def expectWord : List Char → List Char → Except Fault (List Char)
  | [], text => .ok text
  | _ :: _, [] => .error .truncated
  | w :: word, c :: rest => if c = w then expectWord word rest else .error .malformed

def hexDigit? (c : Char) : Option Nat :=
  if '0' ≤ c ∧ c ≤ '9' then some (c.toNat - '0'.toNat)
  else if 'a' ≤ c ∧ c ≤ 'f' then some (c.toNat - 'a'.toNat + 10)
  else if 'A' ≤ c ∧ c ≤ 'F' then some (c.toNat - 'A'.toNat + 10)
  else none

def hexNumber? (digits : List Char) : Option Nat :=
  digits.foldlM (fun number c => (hexDigit? c).map (16 * number + ·)) 0

/-- The number of four hexadecimal digits. A text of less than four bytes ends too early, whatever it holds. -/
def hexQuad (text : List Char) : Except Fault (Nat × List Char) :=
  if byteLength (text.take 4) < 4 then .error .truncated
  else if text.length < 4 then .error .malformed
  else match hexNumber? (text.take 4) with
    | some number => .ok (number, text.drop 4)
    | none => .error .malformed

def isHighSurrogate (n : Nat) : Bool :=
  decide (0xd800 ≤ n ∧ n ≤ 0xdbff)

def isLowSurrogate (n : Nat) : Bool :=
  decide (0xdc00 ≤ n ∧ n ≤ 0xdfff)

/-- The second half of a surrogate pair: an escape that must follow its first half. -/
def lowSurrogate : List Char → Except Fault (Nat × List Char)
  | [] => .error .truncated
  | '\\' :: [] => .error .truncated
  | '\\' :: 'u' :: rest =>
    match hexQuad rest with
    | .error fault => .error fault
    | .ok (low, after) => if isLowSurrogate low then .ok (low, after) else .error .malformed
  | _ :: _ => .error .malformed

/-- The character of an escape by number, behind its backslash and letter. -/
def numericEscape (text : List Char) : Except Fault (Char × List Char) :=
  match hexQuad text with
  | .error fault => .error fault
  | .ok (number, rest) =>
    if isLowSurrogate number then .error .malformed
    else if isHighSurrogate number then
      match lowSurrogate rest with
      | .error fault => .error fault
      | .ok (low, after) =>
        .ok (Char.ofNat (0x10000 + (number - 0xd800) * 0x400 + (low - 0xdc00)), after)
    else .ok (Char.ofNat number, rest)

def shortEscape? (c : Char) : Option Char :=
  if c = '"' ∨ c = '\\' ∨ c = '/' then some c
  else if c = 'b' then some '\x08'
  else if c = 'f' then some '\x0c'
  else if c = 'n' then some '\n'
  else if c = 'r' then some '\r'
  else if c = 't' then some '\t'
  else none

def escape : List Char → Except Fault (Char × List Char)
  | [] => .error .truncated
  | c :: rest =>
    match shortEscape? c with
    | some d => .ok (d, rest)
    | none => if c = 'u' then numericEscape rest else .error .malformed

theorem length_le_of_hexQuad {text rest : List Char} {number : Nat}
    (h : hexQuad text = .ok (number, rest)) : rest.length ≤ text.length := by
  unfold hexQuad at h
  split at h
  · cases h
  · split at h
    · cases h
    · split at h
      · cases h
        simp
      · cases h

theorem length_le_of_lowSurrogate {text rest : List Char} {number : Nat}
    (h : lowSurrogate text = .ok (number, rest)) : rest.length ≤ text.length := by
  unfold lowSurrogate at h
  split at h
  · cases h
  · cases h
  · split at h
    · cases h
    · next hquad =>
      split at h
      · cases h
        have := length_le_of_hexQuad hquad
        simp only [List.length_cons]
        omega
      · cases h
  · cases h

theorem length_le_of_numericEscape {text rest : List Char} {c : Char}
    (h : numericEscape text = .ok (c, rest)) : rest.length ≤ text.length := by
  unfold numericEscape at h
  split at h
  · cases h
  · next hquad =>
    have := length_le_of_hexQuad hquad
    split at h
    · cases h
    · split at h
      · split at h
        · cases h
        · next hlow =>
          have := length_le_of_lowSurrogate hlow
          obtain ⟨-, rfl⟩ := Prod.mk.inj (Except.ok.inj h)
          omega
      · obtain ⟨-, rfl⟩ := Prod.mk.inj (Except.ok.inj h)
        omega

theorem length_le_of_escape {text rest : List Char} {c : Char} (h : escape text = .ok (c, rest)) :
    rest.length ≤ text.length := by
  unfold escape at h
  split at h
  · cases h
  · split at h
    · cases h
      simp
    · split at h
      · have := length_le_of_numericEscape h
        simp only [List.length_cons]
        omega
      · cases h

/-- The rest of a string literal, behind its opening quote. -/
def stringBody : Reader (List Char)
  | [] => .error .truncated
  | c :: rest =>
    if c = '"' then .ok ([], rest)
    else if c = '\\' then
      match _h : escape rest with
      | .error fault => .error fault
      | .ok (d, after) => (stringBody after).map fun (body, behind) => (d :: body, behind)
    else if c.toNat < 0x20 then .error .malformed
    else (stringBody rest).map fun (body, behind) => (c :: body, behind)
termination_by text => text.length
decreasing_by
  · have := length_le_of_escape _h
    simp only [List.length_cons]
    omega
  · simp

/-- What a number is when a natural number is asked for. -/
inductive Numeral where
  | natural (value : Nat)
  /-- A negative number, a fraction, or a number of more than 64 bits. -/
  | other
  deriving DecidableEq

def decimalNumber (digits : List Char) : Nat :=
  digits.foldl (fun number c => 10 * number + (c.toNat - '0'.toNat)) 0

def spanDigits (text : List Char) : List Char × List Char :=
  (text.takeWhile isDigit, text.dropWhile isDigit)

/-- The digits in front of the point of a number; a zero stands alone. -/
def wholeDigits : Reader (List Char)
  | [] => .error .truncated
  | c :: rest =>
    if c = '0' then
      if rest.head?.any isDigit then .error .malformed else .ok ([c], rest)
    else if isDigit c then .ok (spanDigits (c :: rest))
    else .error .malformed

def someDigits (text : List Char) : Except Fault (List Char × List Char) :=
  match spanDigits text with
  | ([], []) => .error .truncated
  | ([], _ :: _) => .error .malformed
  | (digits, rest) => .ok (digits, rest)

/-- The digits behind the point of a number, none if there is no point. -/
def fractionDigits : Reader (List Char)
  | '.' :: rest => someDigits rest
  | text => .ok ([], text)

def exponent : Reader (Option Int)
  | c :: rest =>
    if c = 'e' ∨ c = 'E' then
      let negative := rest.head? = some '-'
      let unsigned := if rest.head? = some '-' ∨ rest.head? = some '+' then rest.tail else rest
      (someDigits unsigned).map fun (digits, after) =>
        (some (if negative then -(decimalNumber digits : Int) else decimalNumber digits), after)
    else .ok (none, c :: rest)
  | [] => .ok (none, [])

/-- Takes digits into a number as long as it fits into 64 bits: the number, and the digits that are left. -/
def takeDigits (value : Nat) : List Char → Nat × List Char
  | [] => (value, [])
  | c :: rest =>
    let next := 10 * value + (c.toNat - '0'.toNat)
    if next < Nat.pow 2 64 then takeDigits next rest else (value, c :: rest)

/-- A number without its sign. Digits that are left of the whole part raise the power of ten, and those taken from
the fraction lower it. -/
def unsignedNumber : Reader Numeral := fun text => do
  let (whole, rest) ← wholeDigits text
  let (fraction, rest) ← fractionDigits rest
  let (power, rest) ← exponent rest
  let (value, beyond) := takeDigits 0 whole
  if fraction.isEmpty ∧ power.isNone ∧ beyond.isEmpty then .ok (.natural value, rest)
  else
    let (significand, unread) := takeDigits value fraction
    let scale : Int := beyond.length + unread.length - fraction.length
    if isTooLarge significand (scale + power.getD 0) then .error .malformed else .ok (.other, rest)

def number : Reader Numeral
  | '-' :: rest => (unsignedNumber rest).map fun (_, after) => (.other, after)
  | text => unsignedNumber text

end LoadScript.Json
