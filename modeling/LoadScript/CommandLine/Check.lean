import LoadScript.CommandLine.Report
import LoadScript.Document
import LoadScript.Files.Access
import LoadScript.Json.Encoding
import LoadScript.Settings

set_option autoImplicit false
set_option relaxedAutoImplicit false

namespace LoadScript.CommandLine

/-- The settings in effect with the vocabulary that they name. -/
structure Setup where
  settings : Settings SystemText
  vocabulary : Vocabulary

def Setup.read (setup : Setup) (source : String) : Reading :=
  readScript setup.vocabulary setup.settings.maxDepth source.toList

def problemLines (path source : String) (problems : List Problem) : List String :=
  problems.map (Problem.report path source.toList)

/-- How far a check has come. -/
structure Checked where
  output : List String := []
  notes : List String := []
  failed : Nat := 0
  /-- Why the check has ended before the last file. -/
  stop : Option (SettingsFault SystemText) := none
  deriving DecidableEq

namespace Checked

def ofSource (setup : Setup) (path source : String) : Checked :=
  let reading := setup.read source
  let failed := if reading.isClean then 0 else 1
  match setup.settings.format with
  | .text => { notes := problemLines path source reading.problems, failed := failed }
  | .json =>
    let value : Json.Value :=
      .object [("file", .string path), ("errors", .array (reading.problems.map Problem.toJson))]
    { output := [value.sorted.compactText], failed := failed }

def ofContent (setup : Setup) (path : String) : Except FileFault String → Checked
  | .error fault => { stop := some (.unreadable path fault) }
  | .ok source => ofSource setup path source

def followedBy (first second : Checked) : Checked where
  output := first.output ++ second.output
  notes := first.notes ++ second.notes
  failed := first.failed + second.failed
  stop := second.stop

def summary (failed total : Nat) : String :=
  toString failed ++ " of " ++ toString total ++ " files have errors"

def report (c : Checked) (total : Nat) : Report :=
  let written : Report := { output := c.output, notes := c.notes }
  match c.stop with
  | some fault => written.failing (.settings fault)
  | none =>
    if c.failed = 0 then written
    else { written with notes := written.notes ++ [summary c.failed total], code := 1 }

end Checked

variable {m : Type → Type} [Monad m]

/-- Checks files up to the first that cannot be read. -/
def checkFiles (files : FileAccess m) (setup : Setup) : List String → m Checked
  | [] => pure {}
  | path :: rest => do
    let first := Checked.ofContent setup path (← files.read path)
    if first.stop.isSome then return first
    else return first.followedBy (← checkFiles files setup rest)

end LoadScript.CommandLine
