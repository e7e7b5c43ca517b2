import LoadScript.CommandLine.Run
import LoadScript.Proofs.Files.Access

set_option autoImplicit false
set_option relaxedAutoImplicit false

namespace LoadScript

open CommandLine

variable {σ : Type} {files : FileAccess (StateM σ)} {state : σ}

theorem bind_apply {α β : Type} (x : StateM σ α) (f : α → StateM σ β) (state : σ) :
    (x >>= f) state = f (x state).1 (x state).2 :=
  rfl

namespace Settings

/-- The settings in the file at a path, or the defaults if there is none. -/
def stored (files : FileAccess (StateM σ)) (state : σ) (path : String) : Except SettingsFault Settings :=
  if files.isThere state path then ofContent path (files.textAt state path) else .ok {}

def inEnvironment (env : Environment) (s : Settings) : Except SettingsFault Settings :=
  match s.applyEnvironment env with
  | (_, some fault) => .error fault
  | (s, none) => .ok s

def loaded (files : FileAccess (StateM σ)) (state : σ) (env : Environment) : Except SettingsFault Settings :=
  (stored files state (path env)).bind (inEnvironment env)

def namedVocabulary {Path : Type} [SystemPath Path] (files : FileAccess (StateM σ)) (state : σ) :
    Option Path → Except (SettingsFault Path) (Option Vocabulary)
  | none => .ok none
  | some path => (vocabularyOfContent path (files.contentAt state (SystemPath.onSystem path))).map some

theorem loadFrom_eq (h : files.Rests state) (path : String) :
    loadFrom files path state = (stored files state path, state) := by
  rw [loadFrom, bind_apply, h.present_eq, stored]
  dsimp only
  split
  · rw [bind_apply, h.read_eq]
    rfl
  · rfl

theorem load_eq (h : files.Rests state) (env : Environment) :
    load files env state = (loaded files state env, state) := by
  rw [load, bind_apply, loadFrom_eq h, loaded]
  dsimp only
  cases stored files state (path env) with
  | error fault => rfl
  | ok s =>
    dsimp only [Except.bind, inEnvironment]
    obtain ⟨t, fault⟩ := s.applyEnvironment env
    cases fault <;> rfl

theorem loadVocabulary_eq {Path : Type} [SystemPath Path] (h : files.Rests state) (s : Settings Path) :
    loadVocabulary files s state = (namedVocabulary files state s.vocabulary, state) := by
  rw [loadVocabulary]
  cases s.vocabulary with
  | none => rfl
  | some path =>
    dsimp only [namedVocabulary]
    rw [bind_apply, h.read_eq]
    dsimp only
    cases vocabularyOfContent path (files.contentAt state (SystemPath.onSystem path)) <;> rfl

theorem namedVocabulary_of_contentAt {path : SystemText} {text : String} {v : Vocabulary}
    (htext : files.contentAt state path = .ok text) (hv : Vocabulary.ofJson text = .ok v) :
    namedVocabulary files state (some path) = .ok (some v) := by
  simp only [namedVocabulary, SystemPath.onSystem, id_eq, htext, vocabularyOfContent, hv, Except.map]

end Settings

namespace CommandLine

def setupAt (files : FileAccess (StateM σ)) (state : σ) (env : Environment) (flags : Flags) :
    Except (SettingsFault SystemText) Setup :=
  match Settings.loaded files state env with
  | .error fault => .error fault.onSystem
  | .ok loaded =>
    (Settings.namedVocabulary files state (flags.apply loaded).vocabulary).map fun v =>
      ⟨flags.apply loaded, v.getD Vocabulary.standard⟩

theorem loadSetup_eq (h : files.Rests state) (env : Environment) (flags : Flags) :
    loadSetup files env flags state = (setupAt files state env flags, state) := by
  rw [loadSetup, bind_apply, Settings.load_eq h, setupAt]
  dsimp only
  cases Settings.loaded files state env with
  | error fault => rfl
  | ok loaded =>
    dsimp only
    rw [bind_apply, Settings.loadVocabulary_eq h]
    dsimp only
    cases Settings.namedVocabulary files state (flags.apply loaded).vocabulary <;> rfl

theorem run_of_setup (h : files.Rests state) (env : Environment) (i : Invocation) :
    i.run files env state = match setupAt files state env i.flags with
      | .error fault => (.failed (.settings fault), state)
      | .ok setup => i.command.run files env setup state := by
  rw [Invocation.run, bind_apply, loadSetup_eq h]
  dsimp only
  cases setupAt files state env i.flags <;> rfl

variable {env : Environment} {flags : Flags} {setup : Setup}

theorem run_of_loadSetup (h : files.Rests state) (hload : loadSetup files env flags state = (.ok setup, state))
    (command : Command) : Invocation.run files env ⟨flags, command⟩ state = command.run files env setup state := by
  rw [loadSetup_eq h] at hload
  rw [run_of_setup h]
  dsimp only
  rw [(Prod.mk.inj hload).1]

theorem loadSetup_of_flags (h : files.Rests state)
    (hthere : files.isThere state (Settings.path fun _ => none) = false) (flags : Flags) :
    loadSetup files (fun _ => none) flags state =
      ((Settings.namedVocabulary files state flags.vocabulary).map fun v =>
        ⟨flags.apply {}, v.getD Vocabulary.standard⟩, state) := by
  have hpath : (flags.apply {}).vocabulary = flags.vocabulary := Option.or_none
  have hloaded : Settings.loaded files state (fun _ => none) = .ok {} := by
    rw [Settings.loaded, Settings.stored, hthere]
    rfl
  rw [loadSetup_eq h, setupAt, hloaded, ← hpath]

def Setup.inFormat (setup : Setup) (format : OutputFormat) : Setup :=
  { setup with settings := { setup.settings with format := format } }

theorem loadSetup_inFormat (h : files.Rests state) (hload : loadSetup files env flags state = (.ok setup, state))
    (format : OutputFormat) :
    loadSetup files env { flags with format := some format } state = (.ok (setup.inFormat format), state) := by
  rw [loadSetup_eq h, setupAt] at hload ⊢
  cases hloaded : Settings.loaded files state env with
  | error fault =>
    rw [hloaded] at hload
    cases hload
  | ok loaded =>
    rw [hloaded] at hload
    dsimp only [Flags.apply] at hload ⊢
    cases hnamed : Settings.namedVocabulary files state
        (flags.vocabulary.or (loaded.vocabulary.map SystemText.text)) with
    | error fault =>
      rw [hnamed] at hload
      cases hload
    | ok v =>
      rw [hnamed] at hload
      cases hload
      rfl

end CommandLine

end LoadScript
