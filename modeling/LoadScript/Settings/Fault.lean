import LoadScript.Files.Fault
import LoadScript.Text.System
import LoadScript.Vocabulary.File

set_option autoImplicit false
set_option relaxedAutoImplicit false

namespace LoadScript

open Text

inductive SettingsFault (Path : Type := String) where
  | unreadable (path : Path) (fault : FileFault)
  | settingsText (path : String) (fault : Json.Fault)
  | invalidValue (name value : String)
  | vocabulary (path : Path) (fault : TableFault)
  deriving DecidableEq

/-- The detailed form of a fault of a table. What is wrong with its text is left open. -/
def TableFault.detail : TableFault → String
  | .text _ => "Json(..."
  | .content fault => fault.detail ++ " \x7d"

namespace SettingsFault

def unreadableMessage (path : String) (fault : FileFault) : String :=
  "cannot read " ++ path ++ ": " ++ fault.message

def invalidValueMessage (name value : String) : String :=
  "invalid setting " ++ name ++ "=" ++ quote value

def storageMessage (fault : FileFault) : String :=
  "IOError: " ++ fault.message

def onSystem : SettingsFault → SettingsFault SystemText
  | .unreadable path fault => .unreadable path fault
  | .settingsText path fault => .settingsText path fault
  | .invalidValue name value => .invalidValue name value
  | .vocabulary path fault => .vocabulary path fault

/-- The detailed form of a fault. What is wrong with a JSON text is left open. -/
def detail : SettingsFault SystemText → String
  | .unreadable path fault =>
    "Read \x7b path: " ++ path.quote ++ ", source: " ++ fault.detail ++ " \x7d"
  | .settingsText path _ => "Config \x7b path: " ++ quote path ++ ", source: ..."
  | .invalidValue name value =>
    "Setting \x7b name: " ++ quote name ++ ", value: " ++ quote value ++ " \x7d"
  | .vocabulary path fault =>
    "Vocabulary \x7b path: " ++ path.quote ++ ", source: " ++ fault.detail

end SettingsFault

end LoadScript
