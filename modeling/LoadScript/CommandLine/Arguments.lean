import LoadScript.CommandLine.Command
import LoadScript.Settings.Environment

/-!
The reading of command lines. Words such as `config` open levels, and the flags may stand on every level, each of
them once; a deeper level stands before the levels around it. Two dashes alone end the flags. The first argument
without a meaning decides the refusal.
-/

set_option autoImplicit false
set_option relaxedAutoImplicit false

namespace LoadScript.CommandLine

inductive Argument where
  | endOfFlags
  | long (name : String) (value : Option String)
  | short (letters : List Char)
  /-- Any other argument; a dash alone is one. -/
  | plain (text : String)
  deriving DecidableEq

namespace Argument

/-- The name and the value in what stands behind two dashes. -/
def longOfText (text : List Char) : Argument :=
  let isName (c : Char) : Bool := c != '='
  let value := match text.dropWhile isName with
    | [] => none
    | _ :: value => some (String.ofList value)
  .long (String.ofList (text.takeWhile isName)) value

def ofText (text : String) : Argument :=
  match text.toList with
  | ['-', '-'] => .endOfFlags
  | '-' :: '-' :: rest => longOfText rest
  | '-' :: c :: rest => .short (c :: rest)
  | _ => .plain text

end Argument

/-- How many files a level takes. -/
inductive FileRoom where
  | none
  | one
  | many
  deriving DecidableEq

def FileRoom.admits : FileRoom → List String → Bool
  | .none, _ => false
  | .one, files => files.isEmpty
  | .many, _ => true

structure Level where
  words : List String
  files : FileRoom
  /-- Holds if the flags that ask for the version are taken. -/
  versioned : Bool

structure LevelArguments where
  flags : Flags := {}
  files : List String := []
  /-- The word that opens the level below, with the arguments behind it. -/
  below : Option (String × List String) := none

def setOnce {α : Type} (old : Option α) (value : Option α) : Except Refusal (Option α) :=
  match old, value with
  | none, some value => .ok (some value)
  | _, _ => .error .misused

theorem forall_mem_of_setOnce {α : Type} {p : α → Prop} {old value new : Option α}
    (h : setOnce old value = .ok new) (hvalue : ∀ a ∈ value, p a) : ∀ a ∈ new, p a := by
  unfold setOnce at h
  split at h
  · exact Except.ok.inj h ▸ hvalue
  · cases h

namespace Flags

def giveValue (f : Flags) (name value : String) : Except Refusal Flags :=
  match name with
  | "vocabulary" =>
    (setOnce f.vocabulary (if value = "" then none else some value)).map fun path => { f with vocabulary := path }
  | "max-depth" =>
    match hset : setOnce f.maxDepth (depthOfText? value.toList) with
    | .error refusal => .error refusal
    | .ok depth =>
      .ok { f with
        maxDepth := depth
        maxDepth_lt := forall_mem_of_setOnce hset fun _ h => lt_of_depthOfText? h }
  | "format" =>
    (setOnce f.format (formatChoices.lookup value)).map fun format => { f with format := format }
  | _ => .error .misused

/-- The flags with one more that has no value. -/
def raise (level : Level) (f : Flags) (name : String) : Except Refusal Flags :=
  if name = "verbose" then if f.verbose then .error .misused else .ok { f with verbose := true }
  else if name = "help" then .error .help
  else if name = "version" ∧ level.versioned then .error .version
  else .error .misused

def letterName (c : Char) : String :=
  if c = 'v' then "verbose" else if c = 'h' then "help" else if c = 'V' then "version" else ""

def valueNames : List String :=
  ["vocabulary", "max-depth", "format"]

end Flags

/-- Reads the arguments of a level, up to a word that opens one below. -/
def readLevel (level : Level) (heard : LevelArguments) : (flagsEnded : Bool) → List String →
    Except Refusal LevelArguments
  | _, [] => .ok heard
  | flagsEnded, text :: rest =>
    let takeFile (_ : Unit) : Except Refusal LevelArguments :=
      if text ≠ "" ∧ level.files.admits heard.files then .ok { heard with files := heard.files ++ [text] }
      else .error .misused
    if flagsEnded then
      match takeFile () with
      | .error refusal => .error refusal
      | .ok heard => readLevel level heard true rest
    else if text ∈ level.words then .ok { heard with below := some (text, rest) }
    else match Argument.ofText text with
      | .endOfFlags => readLevel level heard true rest
      | .plain _ =>
        match takeFile () with
        | .error refusal => .error refusal
        | .ok heard => readLevel level heard false rest
      | .short letters =>
        match letters.foldlM (fun flags c => flags.raise level (Flags.letterName c)) heard.flags with
        | .error refusal => .error refusal
        | .ok flags => readLevel level { heard with flags := flags } false rest
      | .long name (some value) =>
        match heard.flags.giveValue name value with
        | .error refusal => .error refusal
        | .ok flags => readLevel level { heard with flags := flags } false rest
      | .long name none =>
        if name ∈ Flags.valueNames then
          match rest with
          | [] => .error .misused
          | value :: rest =>
            match Argument.ofText value with
            | .plain _ =>
              match heard.flags.giveValue name value with
              | .error refusal => .error refusal
              | .ok flags => readLevel level { heard with flags := flags } false rest
            | _ => .error .misused
        else
          match heard.flags.raise level name with
          | .error refusal => .error refusal
          | .ok flags => readLevel level { heard with flags := flags } false rest

def topWords : List String :=
  ["tokens", "tree", "check", "vocab", "config", "help"]

def settingsWords : List String :=
  ["show", "init", "path", "help"]

def isTopic : List String → Bool
  | [] => true
  | [word] => topWords.contains word
  | [word, settingsWord] => word == "config" && settingsWords.contains settingsWord
  | _ => false

/-- Reads the arguments of a level below which there is none. -/
def readLeaf (files : FileRoom) (flags : Flags) (arguments : List String) :
    Except Refusal (Flags × List String) :=
  match readLevel ⟨[], files, false⟩ {} false arguments with
  | .error refusal => .error refusal
  | .ok heard => .ok (flags.overriddenBy heard.flags, heard.files)

def readCommand (files : FileRoom) (command? : List String → Option Command) (flags : Flags)
    (arguments : List String) : Except Refusal Invocation :=
  match readLeaf files flags arguments with
  | .error refusal => .error refusal
  | .ok (flags, files) =>
    match command? files with
    | some command => .ok ⟨flags, command⟩
    | none => .error .misused

def refuseWithHelp (known : Bool) : Refusal :=
  if known then .help else .misused

def readSettingsCommand (flags : Flags) (arguments : List String) : Except Refusal Invocation :=
  match readLevel ⟨settingsWords, .none, false⟩ {} false arguments with
  | .error refusal => .error refusal
  | .ok heard =>
    let flags := flags.overriddenBy heard.flags
    let settings (command : SettingsCommand) (rest : List String) : Except Refusal Invocation :=
      readCommand .none (fun _ => some (.settings command)) flags rest
    match heard.below with
    | some ("show", rest) => settings .display rest
    | some ("init", rest) => settings .init rest
    | some ("path", rest) => settings .path rest
    | some ("help", rest) => .error (refuseWithHelp (isTopic ("config" :: rest)))
    | _ => .error .misused

def readArguments (arguments : List String) : Except Refusal Invocation :=
  match readLevel ⟨topWords, .none, true⟩ {} false arguments with
  | .error refusal => .error refusal
  | .ok heard =>
    let single (command : String → Command) (files : List String) : Option Command := files.head?.map command
    match heard.below with
    | some ("tokens", rest) => readCommand .one (single .tokens) heard.flags rest
    | some ("tree", rest) => readCommand .one (single .tree) heard.flags rest
    | some ("check", rest) =>
      readCommand .many (fun files => if files.isEmpty then none else some (.check files)) heard.flags rest
    | some ("vocab", rest) => readCommand .none (fun _ => some .vocabulary) heard.flags rest
    | some ("config", rest) => readSettingsCommand heard.flags rest
    | some ("help", rest) => .error (refuseWithHelp (isTopic rest))
    | _ => .error .misused

end LoadScript.CommandLine
