import LoadScript.Text.Quoted

/-!
Texts as the system passes them on, in variables and as paths. They are bytes, and those need not be UTF-8.
-/

set_option autoImplicit false
set_option relaxedAutoImplicit false

namespace LoadScript

open Text

/-- A text of the system. -/
inductive SystemText where
  | text (value : String)
  | bytes (value : ByteArray) (notText : ¬value.IsValidUTF8)

instance : DecidableEq SystemText
  | .text a, .text b => decidable_of_decidable_of_eq (SystemText.text.injEq a b).symm
  | .bytes a ha, .bytes b hb =>
    have : Decidable (a = b) := ByteArray.instDecidableEq a b
    decidable_of_decidable_of_eq (SystemText.bytes.injEq a ha b hb).symm
  | .text _, .bytes _ _ => isFalse SystemText.noConfusion
  | .bytes _ _, .text _ => isFalse SystemText.noConfusion

instance : Coe String SystemText := ⟨.text⟩

class SystemPath (Path : Type) where
  onSystem : Path → SystemText

instance : SystemPath String := ⟨.text⟩

instance : SystemPath SystemText := ⟨id⟩

namespace SystemText

def text? : SystemText → Option String
  | .text value => some value
  | .bytes _ _ => none

/-- A byte that belongs to no character, by its hexadecimal digits. -/
def byteEscape (byte : UInt8) : List Char :=
  ['\\', 'x', (Nat.digitChar (byte.toNat / 16)).toUpper, (Nat.digitChar (byte.toNat % 16)).toUpper]

/-- What stands between two quotes for the bytes from an offset on. -/
def escapedFrom (bytes : ByteArray) (offset : Nat) : List Char :=
  if h : offset < bytes.size then
    match bytes.utf8DecodeChar? offset with
    | some c =>
      have := c.utf8Size_pos
      escaped '"' c ++ escapedFrom bytes (offset + c.utf8Size)
    | none => byteEscape bytes[offset] ++ escapedFrom bytes (offset + 1)
  else []
termination_by bytes.size - offset

def quote : SystemText → String
  | .text value => Text.quote value
  | .bytes value _ => String.ofList ('"' :: escapedFrom value 0 ++ ['"'])

end SystemText

end LoadScript
