set_option autoImplicit false
set_option relaxedAutoImplicit false

namespace LoadScript.Json

/-- A JSON value; its numbers are natural. -/
inductive Value where
  | null
  | bool (value : Bool)
  | number (value : Nat)
  | string (value : String)
  | array (items : List Value)
  | object (members : List (String × Value))

def escaped (c : Char) : List Char :=
  if c = '"' then ['\\', '"']
  else if c = '\\' then ['\\', '\\']
  else if c = '\x08' then ['\\', 'b']
  else if c = '\x0c' then ['\\', 'f']
  else if c = '\n' then ['\\', 'n']
  else if c = '\r' then ['\\', 'r']
  else if c = '\t' then ['\\', 't']
  else if c.toNat < 0x20 then
    ['\\', 'u', '0', '0', Nat.digitChar (c.toNat / 16), Nat.digitChar (c.toNat % 16)]
  else [c]

def literal (text : String) : List Char :=
  '"' :: text.toList.flatMap escaped ++ ['"']

/-- A line break with the indentation of a level. -/
def lineBreak (level : Nat) : List Char :=
  '\n' :: List.replicate (2 * level) ' '

namespace Value

mutual

def compact : Value → List Char
  | .null => "null".toList
  | .bool true => "true".toList
  | .bool false => "false".toList
  | .number value => Nat.toDigits 10 value
  | .string value => literal value
  | .array items => '[' :: compactItems items ++ [']']
  | .object members => '\x7b' :: compactMembers members ++ ['\x7d']

def compactItems : List Value → List Char
  | [] => []
  | [value] => value.compact
  | value :: next :: rest => value.compact ++ ',' :: compactItems (next :: rest)

def compactMembers : List (String × Value) → List Char
  | [] => []
  | [(key, value)] => literal key ++ ':' :: value.compact
  | (key, value) :: next :: rest =>
    literal key ++ ':' :: value.compact ++ ',' :: compactMembers (next :: rest)

end

mutual

def indented (level : Nat) : Value → List Char
  | .null => "null".toList
  | .bool true => "true".toList
  | .bool false => "false".toList
  | .number value => Nat.toDigits 10 value
  | .string value => literal value
  | .array [] => ['[', ']']
  | .array (item :: items) =>
    '[' :: indentedItems (level + 1) (item :: items) ++ lineBreak level ++ [']']
  | .object [] => ['\x7b', '\x7d']
  | .object (member :: members) =>
    '\x7b' :: indentedMembers (level + 1) (member :: members) ++ lineBreak level ++ ['\x7d']

def indentedItems (level : Nat) : List Value → List Char
  | [] => []
  | [value] => lineBreak level ++ value.indented level
  | value :: next :: rest =>
    lineBreak level ++ value.indented level ++ ',' :: indentedItems level (next :: rest)

def indentedMembers (level : Nat) : List (String × Value) → List Char
  | [] => []
  | [(key, value)] => lineBreak level ++ literal key ++ ':' :: ' ' :: value.indented level
  | (key, value) :: next :: rest =>
    lineBreak level ++ literal key ++ ':' :: ' ' :: value.indented level
      ++ ',' :: indentedMembers level (next :: rest)

end

mutual

/-- A value with the members of its objects in the order of their names. -/
def sorted : Value → Value
  | .array items => .array (sortedItems items)
  | .object members => .object ((sortedMembers members).mergeSort fun a b => a.1 ≤ b.1)
  | value => value

def sortedItems : List Value → List Value
  | [] => []
  | value :: rest => value.sorted :: sortedItems rest

def sortedMembers : List (String × Value) → List (String × Value)
  | [] => []
  | (key, value) :: rest => (key, value.sorted) :: sortedMembers rest

end

def compactText (value : Value) : String :=
  String.ofList value.compact

def indentedText (value : Value) : String :=
  String.ofList (value.indented 0)

end Value

end LoadScript.Json
