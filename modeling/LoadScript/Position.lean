import LoadScript.Text.Bytes

set_option autoImplicit false
set_option relaxedAutoImplicit false

namespace LoadScript

open Text

/-- A line and a column, each counted from one. -/
structure Position where
  line : Nat
  column : Nat
  deriving DecidableEq

namespace Position

def behind (text : List Char) : Position :=
  ⟨text.count '\n' + 1, (text.reverse.takeWhile (· ≠ '\n')).length + 1⟩

/-- The position of a byte offset. An offset inside a character counts as the character's start, and one past
the end as the end. -/
def ofOffset (source : List Char) (offset : Nat) : Position :=
  behind (frontWithin offset source)

def text (p : Position) : String :=
  toString p.line ++ ":" ++ toString p.column

end Position

end LoadScript
