import LoadScript.Files.Access
import LoadScript.Settings.Environment

set_option autoImplicit false
set_option relaxedAutoImplicit false

namespace LoadScript

namespace Settings

variable {m : Type → Type} [Monad m]

def ofContent (path : String) : Except FileFault String → Except SettingsFault Settings
  | .error fault => .error (.unreadable path fault)
  | .ok text =>
    match ofJson text with
    | .error fault => .error (.settingsText path fault)
    | .ok s => .ok s

def vocabularyOfContent {Path : Type} (path : Path) :
    Except FileFault String → Except (SettingsFault Path) Vocabulary
  | .error fault => .error (.unreadable path fault)
  | .ok text =>
    match Vocabulary.ofJson text with
    | .error fault => .error (.vocabulary path fault)
    | .ok v => .ok v

/-- The settings in the file at a path, or the defaults if there is none. -/
def loadFrom (files : FileAccess m) (path : String) : m (Except SettingsFault Settings) := do
  if ← files.present path then
    return ofContent path (← files.read path)
  else
    return .ok {}

/-- The settings in the settings file, and before them those in the environment. -/
def load (files : FileAccess m) (env : Environment) : m (Except SettingsFault Settings) := do
  match ← loadFrom files (path env) with
  | .error fault => return .error fault
  | .ok s =>
    match s.applyEnvironment env with
    | (_, some fault) => return .error fault
    | (s, none) => return .ok s

def saveTo (files : FileAccess m) (path : String) (s : Settings) : m (Except FileFault Unit) :=
  files.save path s.text

def loadVocabulary {Path : Type} [SystemPath Path] (files : FileAccess m) (s : Settings Path) :
    m (Except (SettingsFault Path) (Option Vocabulary)) := do
  match s.vocabulary with
  | none => return .ok none
  | some path =>
    match vocabularyOfContent path (← files.read (SystemPath.onSystem path)) with
    | .error fault => return .error fault
    | .ok v => return .ok (some v)

end Settings

end LoadScript
