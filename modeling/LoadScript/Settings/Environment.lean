import LoadScript.Settings
import LoadScript.Settings.Fault
import LoadScript.Text.Fields

/-!
Settings from the environment. Three variables stand before what a settings file says, and two more tell where
that file is. A variable without meaning stops the reading of those behind it.
-/

set_option autoImplicit false
set_option relaxedAutoImplicit false

namespace LoadScript

open Text

abbrev Environment := String → Option SystemText

/-- The value of a variable. One that is no text counts as not set. -/
def Environment.text? (env : Environment) (name : String) : Option String :=
  (env name).bind SystemText.text?

/-- The number that a text writes with decimal digits, perhaps behind a plus sign, in at most 64 bits. -/
def depthOfText? (text : List Char) : Option Nat :=
  let digits := if text.head? = some '+' then text.tail else text
  let value := Json.decimalNumber digits
  if digits ≠ [] ∧ digits.all isDigit ∧ value < Nat.pow 2 64 then some value else none

theorem lt_of_depthOfText? {text : List Char} {depth : Nat} (h : depthOfText? text = some depth) :
    depth < Nat.pow 2 64 := by
  obtain ⟨⟨-, -, hlt⟩, rfl⟩ := Option.ite_some_none_eq_some.1 h
  exact hlt

/-- The format that a text names; case has no meaning in it. -/
def formatOfText? (text : List Char) : Option OutputFormat :=
  formatChoices.lookup (String.ofList (text.map Char.toLower))

namespace Settings

def vocabularyVariable : String := "QVS_VOCABULARY"

def depthVariable : String := "QVS_MAX_DEPTH"

def formatVariable : String := "QVS_FORMAT"

def pathVariable : String := "QVS_CONFIG"

/-- The meaning of a variable without the white space around its value, if it is set. -/
def readVariable {α : Type} (env : Environment) (name : String) (meaning? : List Char → Option α) :
    Except SettingsFault (Option α) :=
  match env.text? name with
  | none => .ok none
  | some value =>
    match meaning? (trim value.toList) with
    | some meaning => .ok (some meaning)
    | none => .error (.invalidValue name value)

/-- The settings after the environment, with the fault of the first variable that has no meaning. What stands
before that variable has been applied. -/
def applyEnvironment (env : Environment) (s : Settings) : Settings × Option SettingsFault :=
  let s := { s with vocabulary := (env.text? vocabularyVariable).or s.vocabulary }
  match readVariable env depthVariable depthOfText? with
  | .error fault => (s, some fault)
  | .ok depth =>
    let s := { s with maxDepth := depth.getD s.maxDepth }
    match readVariable env formatVariable formatOfText? with
    | .error fault => (s, some fault)
    | .ok format => ({ s with format := format.getD s.format }, none)

def under (folder name : String) : String :=
  if folder = "" ∨ folder.toList.getLast? = some '/' then folder ++ name else folder ++ "/" ++ name

def path (env : Environment) : String :=
  match env.text? pathVariable with
  | some path => path
  | none => under ((env.text? "HOME").getD ".") ".qvs/config.json"

end Settings

end LoadScript
