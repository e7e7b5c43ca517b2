import LoadScript.Json.Lexical

/-!
Values that are read only to be passed over. They must be JSON, but escapes need not stand for characters and
numbers may be of any size.
-/

set_option autoImplicit false
set_option relaxedAutoImplicit false

namespace LoadScript.Json

def passString : (fuel : Nat) → List Char → Except Fault (List Char)
  | 0, _ => .error .truncated
  | _ + 1, [] => .error .truncated
  | fuel + 1, c :: rest =>
    if c = '"' then .ok rest
    else if c = '\\' then
      match rest with
      | [] => .error .truncated
      | d :: after =>
        if (shortEscape? d).isSome then passString fuel after
        else if d = 'u' then
          match hexQuad after with
          | .error fault => .error fault
          | .ok (_, behind) => passString fuel behind
        else .error .malformed
    else if c.toNat < 0x20 then .error .malformed
    else passString fuel rest

def passDigits (text : List Char) : Except Fault (List Char) :=
  if text.head?.any isDigit then .ok (text.dropWhile isDigit) else .error .malformed

/-- The text after a number without its sign that is passed over. -/
def passNumber (text : List Char) : Except Fault (List Char) := do
  let rest ← passDigits text
  if text.head? = some '0' ∧ 1 < (text.takeWhile isDigit).length then .error .malformed
  else
    let rest ← if rest.head? = some '.' then passDigits rest.tail else .ok rest
    if rest.head? = some 'e' ∨ rest.head? = some 'E' then
      let behind := rest.tail
      passDigits (if behind.head? = some '+' ∨ behind.head? = some '-' then behind.tail else behind)
    else .ok rest

def expectColon (text : List Char) : Except Fault (List Char) :=
  match skipBlanks text with
  | [] => .error .truncated
  | ':' :: rest => .ok rest
  | _ => .error .malformed

inductive Container where
  | array
  | object
  deriving DecidableEq

def Container.closing : Container → Char
  | .array => ']'
  | .object => '\x7d'

inductive Passing where
  | value
  | opened
  | within
  | name

/-- The text after a value that is passed over; `open` holds the containers around it, innermost first. -/
def passFrom : (fuel : Nat) → Passing → List Container → List Char → Except Fault (List Char)
  | 0, _, _, _ => .error .truncated
  | fuel + 1, .value, outer, text =>
    let scalar (result : Except Fault (List Char)) : Except Fault (List Char) :=
      match result with
      | .error fault => .error fault
      | .ok rest => passFrom fuel .within outer rest
    match skipBlanks text with
    | [] => .error .truncated
    | 'n' :: rest => scalar (expectWord "ull".toList rest)
    | 't' :: rest => scalar (expectWord "rue".toList rest)
    | 'f' :: rest => scalar (expectWord "alse".toList rest)
    | '-' :: rest => scalar (passNumber rest)
    | '"' :: rest => scalar (passString (rest.length + 1) rest)
    | '[' :: rest => passFrom fuel .opened (.array :: outer) rest
    | '\x7b' :: rest => passFrom fuel .opened (.object :: outer) rest
    | c :: rest => if isDigit c then scalar (passNumber (c :: rest)) else .error .malformed
  | _ + 1, .within, [], text => .ok text
  | fuel + 1, .within, container :: outer, text =>
    match skipBlanks text with
    | [] => .error .truncated
    | c :: rest =>
      if c = container.closing then passFrom fuel .within outer rest
      else if c = ',' then
        passFrom fuel (if container = .array then .value else .name) (container :: outer) rest
      else .error .malformed
  | _ + 1, .opened, [], _ => .error .malformed
  | fuel + 1, .opened, container :: outer, text =>
    match skipBlanks text with
    | [] => .error .truncated
    | c :: rest =>
      if c = container.closing then passFrom fuel .within outer rest
      else passFrom fuel (if container = .array then .value else .name) (container :: outer) (c :: rest)
  | fuel + 1, .name, outer, text =>
    match skipBlanks text with
    | [] => .error .truncated
    | '"' :: rest =>
      match passString (rest.length + 1) rest with
      | .error fault => .error fault
      | .ok after =>
        match expectColon after with
        | .error fault => .error fault
        | .ok behind => passFrom fuel .value outer behind
    | _ => .error .malformed

def ignored : Reader Unit := fun text =>
  (passFrom (2 * text.length + 2) .value [] text).map fun rest => ((), rest)

end LoadScript.Json
