import LoadScript.CommandLine.Arguments
import LoadScript.CommandLine.Check
import LoadScript.CommandLine.Listing
import LoadScript.Settings.Storage
import LoadScript.Vocabulary.Standard

/-!
Runs of the program. The settings come from the settings file, the environment and the flags, each before the
ones named earlier; the vocabulary that they name is loaded before any command, also one that has no use for it.
-/

set_option autoImplicit false
set_option relaxedAutoImplicit false

namespace LoadScript.CommandLine

/-- The tokens of a source, as lines or as one JSON array. Problems are noted beside lines only. -/
def tokensReport (setup : Setup) (path source : String) : Report :=
  let scanned := scan setup.vocabulary source.toList
  match setup.settings.format with
  | .text =>
    { output := scanned.listing source.toList, notes := problemLines path source scanned.problems }
  | .json => .printing (Json.Value.array (scanned.tokens.map Token.toJson)).indentedText

/-- The tree of a source, as an outline with the problems beside it or as one JSON object with both. -/
def treeReport (setup : Setup) (path source : String) : Report :=
  let reading := setup.read source
  match setup.settings.format with
  | .text =>
    { output := reading.document.outline, notes := problemLines path source reading.problems }
  | .json => .printing reading.toJson.indentedText

def reportOnContent (report : (path source : String) → Report) (path : String) :
    Except FileFault String → Report
  | .error fault => .failed (.settings (.unreadable path fault))
  | .ok source => report path source

variable {m : Type → Type} [Monad m]

def loadSetup (files : FileAccess m) (env : Environment) (flags : Flags) :
    m (Except (SettingsFault SystemText) Setup) := do
  match ← Settings.load files env with
  | .error fault => return .error fault.onSystem
  | .ok loaded =>
    let settings := flags.apply loaded
    match ← settings.loadVocabulary files with
    | .error fault => return .error fault
    | .ok vocabulary => return .ok ⟨settings, vocabulary.getD Vocabulary.standard⟩

/-- Writes a settings file with the defaults unless one is there. -/
def initSettings (files : FileAccess m) (path : String) : m Report := do
  if ← files.present path then
    return .printing ("Config file already exists at: " ++ path)
  else
    match ← Settings.saveTo files path {} with
    | .error fault => return .failed (.storage fault)
    | .ok _ => return .printing ("Initialized new config file at: " ++ path)

/-- Prints the settings of a run as they could be kept. -/
def settingsReport (s : Settings SystemText) : Report :=
  match s.ofSystem? with
  | some s => .printing s.text
  | none => .failed .unprintable

def Command.run (files : FileAccess m) (env : Environment) (setup : Setup) : Command → m Report
  | .tokens path => do return reportOnContent (tokensReport setup) path (← files.read path)
  | .tree path => do return reportOnContent (treeReport setup) path (← files.read path)
  | .check paths => do return (← checkFiles files setup paths).report paths.length
  | .vocabulary => return .printing setup.vocabulary.table.toJson.indentedText
  | .settings .display => return settingsReport setup.settings
  | .settings .init => initSettings files (Settings.path env)
  | .settings .path => return .printing (Settings.path env)

def Invocation.run (files : FileAccess m) (env : Environment) (i : Invocation) : m Report := do
  match ← loadSetup files env i.flags with
  | .error fault => return .failed (.settings fault)
  | .ok setup => i.command.run files env setup

def usage : String :=
  "Usage: qvs [--vocabulary PATH] [--max-depth N] [--format text|json] [--verbose] COMMAND\n"
    ++ "Commands: tokens FILE, tree FILE, check FILES, vocab, config show, config init, config path"

def versionLine : String := "qvs 0.1.0"

def Refusal.report : Refusal → Report
  | .misused => { notes := [usage], code := 2 }
  | .help => .printing usage
  | .version => .printing versionLine

def run (files : FileAccess m) (env : Environment) (arguments : List String) : m Report :=
  match readArguments arguments with
  | .error refusal => pure refusal.report
  | .ok i => i.run files env

end LoadScript.CommandLine
