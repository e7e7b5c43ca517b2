import LoadScript.Json.Ignored

/-!
Readers for JSON of a known shape. A text is read strictly from front to back, and the first thing that is not as
it should be decides the fault. A record may be written as an object of its members or as an array of their
values in order; a name from a fixed list may be written as a string or as an object with that one member.
-/

set_option autoImplicit false
set_option relaxedAutoImplicit false

namespace LoadScript.Json

/-- The fault of a scalar of the wrong type: its own, if it cannot be read. -/
def wrongType {α : Type} : Except Fault α → Fault
  | .error fault => fault
  | .ok _ => .mismatched

/-- The fault of a text that starts with something other than what is asked for. A container is refused at its
opening mark, a scalar behind its end. -/
def mismatch : List Char → Fault
  | [] => .truncated
  | 'n' :: rest => wrongType (expectWord "ull".toList rest)
  | 't' :: rest => wrongType (expectWord "rue".toList rest)
  | 'f' :: rest => wrongType (expectWord "alse".toList rest)
  | '"' :: rest => wrongType (stringBody rest)
  | '[' :: _ => .mismatched
  | '\x7b' :: _ => .mismatched
  | c :: rest => if c = '-' || isDigit c then wrongType (number (c :: rest)) else .malformed

def string : Reader String := fun text =>
  match skipBlanks text with
  | '"' :: rest => (stringBody rest).map fun (body, after) => (String.ofList body, after)
  | other => .error (mismatch other)

def bool : Reader Bool := fun text =>
  match skipBlanks text with
  | 't' :: rest => (expectWord "rue".toList rest).map fun after => (true, after)
  | 'f' :: rest => (expectWord "alse".toList rest).map fun after => (false, after)
  | other => .error (mismatch other)

/-- A natural number of at most 64 bits. -/
def natural : Reader Nat := fun text =>
  match skipBlanks text with
  | [] => .error .truncated
  | c :: rest =>
    if c = '-' || isDigit c then
      match number (c :: rest) with
      | .ok (.natural value, after) => .ok (value, after)
      | .ok (.other, _) => .error .mismatched
      | .error fault => .error fault
    else .error (mismatch (c :: rest))

def optional {α : Type} (reader : Reader α) : Reader (Option α) := fun text =>
  match skipBlanks text with
  | 'n' :: rest => (expectWord "ull".toList rest).map fun after => (none, after)
  | other => (reader other).map fun (value, after) => (some value, after)

def null (text : List Char) : Except Fault (List Char) :=
  match skipBlanks text with
  | 'n' :: rest => expectWord "ull".toList rest
  | other => .error (mismatch other)

def choiceName {α : Type} (choices : List (String × α)) : Reader α := fun text => do
  let (name, rest) ← string text
  match choices.lookup name with
  | some value => .ok (value, rest)
  | none => .error .mismatched

/-- One of some choices by the name of a member. -/
def memberChoice {α : Type} (choices : List (String × α)) : Reader α := fun text =>
  match skipBlanks text with
  | [] => .error .truncated
  | '"' :: rest => choiceName choices ('"' :: rest)
  | _ => .error .malformed

def choice {α : Type} (choices : List (String × α)) : Reader α := fun text =>
  match skipBlanks text with
  | [] => .error .truncated
  | '"' :: rest => choiceName choices ('"' :: rest)
  | '\x7b' :: rest => do
    let (value, rest) ← memberChoice choices rest
    let rest ← expectColon rest
    let rest ← null rest
    match skipBlanks rest with
    | [] => .error .truncated
    | '\x7d' :: after => .ok (value, after)
    | _ => .error .malformed
  | _ => .error .malformed

/-- The text in front of the next element of an array, or nothing at the closing mark. -/
def nextElement (first : Bool) (text : List Char) : Except Fault (Option (List Char)) :=
  match skipBlanks text with
  | [] => .error .truncated
  | ']' :: _ => .ok none
  | c :: rest =>
    if first then .ok (some (c :: rest))
    else if c = ',' then
      match skipBlanks rest with
      | [] => .error .truncated
      | ']' :: _ => .error .malformed
      | other => .ok (some other)
    else .error .malformed

def endArray (text : List Char) : Except Fault (List Char) :=
  match skipBlanks text with
  | [] => .error .truncated
  | ']' :: rest => .ok rest
  | _ => .error .malformed

def elements {α : Type} (reader : Reader α) : (fuel : Nat) → (first : Bool) → Reader (List α)
  | 0, _, _ => .error .truncated
  | fuel + 1, first, text => do
    match ← nextElement first text with
    | none => (endArray text).map fun rest => ([], rest)
    | some front =>
      let (value, rest) ← reader front
      let (values, rest) ← elements reader fuel false rest
      .ok (value :: values, rest)

def array {α : Type} (reader : Reader α) : Reader (List α) := fun text =>
  match skipBlanks text with
  | '[' :: rest => elements reader (rest.length + 1) true rest
  | other => .error (mismatch other)

def nextName (first : Bool) (text : List Char) : Except Fault (Option String × List Char) :=
  let name (text : List Char) : Except Fault (Option String × List Char) :=
    (stringBody text).map fun (body, after) => (some (String.ofList body), after)
  match skipBlanks text with
  | [] => .error .truncated
  | '\x7d' :: rest => .ok (none, rest)
  | c :: rest =>
    if first then if c = '"' then name rest else .error .malformed
    else if c = ',' then
      match skipBlanks rest with
      | [] => .error .truncated
      | '"' :: after => name after
      | _ => .error .malformed
    else .error .malformed

/-- A field of a record under construction. -/
structure FieldReader (σ : Type) where
  name : String
  /-- Holds if the field has been read already. -/
  isSet : σ → Bool
  read : σ → Reader σ

/-- The members of an object from some member on. Members of unknown names are passed over. -/
def members {σ : Type} (fields : List (FieldReader σ)) : (fuel : Nat) → (first : Bool) → σ → Reader σ
  | 0, _, _, _ => .error .truncated
  | fuel + 1, first, record, text => do
    match ← nextName first text with
    | (none, rest) => .ok (record, rest)
    | (some name, rest) =>
      match fields.find? fun field => field.name == name with
      | none =>
        let rest ← expectColon rest
        let (_, rest) ← ignored rest
        members fields fuel false record rest
      | some field =>
        if field.isSet record then .error .mismatched
        else
          let rest ← expectColon rest
          let (record, rest) ← field.read record rest
          members fields fuel false record rest

/-- The values of an array, one for each field in order; the array may end early. -/
def positions {σ : Type} : List (FieldReader σ) → (first : Bool) → σ → Reader σ
  | [], _, record, text => .ok (record, text)
  | field :: rest, first, record, text => do
    match ← nextElement first text with
    | none => .ok (record, text)
    | some front =>
      let (record, after) ← field.read record front
      positions rest false record after

/-- A record of some fields, made from what is read if nothing that it needs is missing. -/
def record {σ α : Type} (fields : List (FieldReader σ)) (start : σ) (finish : σ → Option α) : Reader α :=
    fun text =>
  let complete (record : σ) : Except Fault α :=
    match finish record with
    | some value => .ok value
    | none => .error .mismatched
  match skipBlanks text with
  | '[' :: rest => do
    let (record, rest) ← positions fields true start rest
    let value ← complete record
    let rest ← endArray rest
    .ok (value, rest)
  | '\x7b' :: rest => do
    let (record, rest) ← members fields (rest.length + 1) true start rest
    let value ← complete record
    .ok (value, rest)
  | other => .error (mismatch other)

/-- What a whole text holds, with nothing but white space behind it. -/
def document {α : Type} (reader : Reader α) (text : List Char) : Except Fault α := do
  let (value, rest) ← reader text
  if (skipBlanks rest).isEmpty then .ok value else .error .malformed

end LoadScript.Json
