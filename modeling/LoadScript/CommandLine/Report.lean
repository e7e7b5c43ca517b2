import LoadScript.Settings.Fault

set_option autoImplicit false
set_option relaxedAutoImplicit false

namespace LoadScript.CommandLine

structure Report where
  output : List String := []
  notes : List String := []
  code : Nat := 0
  deriving DecidableEq

/-- Texts with a line break after each. -/
def closeLines (texts : List String) : String :=
  String.join (texts.map (· ++ "\n"))

inductive Failure where
  | settings (fault : SettingsFault SystemText)
  | storage (fault : FileFault)
  /-- A path that is no text has no place in the settings that are to be printed. -/
  | unprintable
  deriving DecidableEq

def Failure.note : Failure → String
  | .settings fault => "Error: " ++ fault.detail
  | .storage fault => "Error: " ++ fault.detail
  | .unprintable => "Error: Error(\"path contains invalid UTF-8 characters\", line: 0, column: 0)"

namespace Report

def printing (text : String) : Report :=
  { output := [text] }

def failing (r : Report) (failure : Failure) : Report :=
  { r with notes := r.notes ++ [failure.note], code := 1 }

/-- The report of a run that fails before it prints anything. -/
def failed (failure : Failure) : Report :=
  failing {} failure

end Report

end LoadScript.CommandLine
