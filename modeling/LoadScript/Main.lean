import LoadScript.CommandLine.Run
import LoadScript.Files.Store

set_option autoImplicit false
set_option relaxedAutoImplicit false

namespace LoadScript.CommandLine

def faultOfError (error : IO.Error) : FileFault :=
  match error with
  | .noFileOrDirectory _ _ _ => .system .missing
  | .alreadyExists _ _ _ => .system .occupied
  | .inappropriateType _ code _ => .system (if code = 20 then .notFolder else .isFolder)
  | .permissionDenied _ code _ => .system ⟨code.toNat, "PermissionDenied", "Permission denied"⟩
  | other => .system ⟨0, "Other", toString other⟩

def tryFault {α : Type} (action : IO α) : IO (Except FileFault α) := do
  match ← action.toBaseIO with
  | .ok value => return .ok value
  | .error error => return .error (faultOfError error)

/-- Holds if a path can be opened, or only a permission is missing. -/
def systemPresent (path : String) : IO Bool := do
  match ← (IO.FS.Handle.mk path .read).toBaseIO with
  | .ok _ => return true
  | .error (.permissionDenied _ _ _) => return true
  | .error _ => return false

def readText (path : String) : IO (Except FileFault String) := do
  match ← tryFault (IO.FS.readBinFile path) with
  | .error fault => return .error fault
  | .ok bytes =>
    match String.fromUTF8? bytes with
    | some text => return .ok text
    | none => return .error .notText

/-- The text of a file of the system. Arguments arrive as texts, so there are no other paths here. -/
def systemRead : SystemText → IO (Except FileFault String)
  | .text path => readText path
  | .bytes _ _ => return .error (.system .missing)

def systemSave (path text : String) : IO (Except FileFault Unit) :=
  tryFault do
    let names := folderNames path
    let start := if Place.startOf path = [] then "" else "/"
    if !names.isEmpty then IO.FS.createDirAll (start ++ "/".intercalate names)
    IO.FS.writeFile path text

def systemFiles : FileAccess IO where
  present := systemPresent
  read := systemRead
  save := systemSave

def knownVariables : List String :=
  [Settings.vocabularyVariable, Settings.depthVariable, Settings.formatVariable, Settings.pathVariable, "HOME"]

def systemEnvironment : IO Environment := do
  let values ← knownVariables.mapM fun name => return (name, ← IO.getEnv name)
  return fun name => (values.lookup name).join.map .text

/-- Runs a command line on the system and gives its exit code. -/
def runOnSystem (arguments : List String) : IO UInt32 := do
  let report ← run systemFiles (← systemEnvironment) arguments
  IO.print (closeLines report.output)
  IO.eprint (closeLines report.notes)
  return report.code.toUInt32

end LoadScript.CommandLine

def main (arguments : List String) : IO UInt32 :=
  LoadScript.CommandLine.runOnSystem arguments
