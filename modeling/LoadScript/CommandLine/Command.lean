import LoadScript.Settings

set_option autoImplicit false
set_option relaxedAutoImplicit false

namespace LoadScript.CommandLine

inductive SettingsCommand where
  | display
  | init
  | path
  deriving DecidableEq

inductive Command where
  | tokens (file : String)
  | tree (file : String)
  | check (files : List String)
  | vocabulary
  | settings (command : SettingsCommand)
  deriving DecidableEq

structure Flags where
  vocabulary : Option SystemText := none
  maxDepth : Option Nat := none
  format : Option OutputFormat := none
  /-- Asks for notes on the work; the reports themselves stay the same. -/
  verbose : Bool := false
  maxDepth_lt : ∀ depth ∈ maxDepth, depth < Nat.pow 2 64 := by decide
  deriving DecidableEq

namespace Flags

/-- The flags with others that stand before them. -/
def overriddenBy (outer inner : Flags) : Flags where
  vocabulary := inner.vocabulary.or outer.vocabulary
  maxDepth := inner.maxDepth.or outer.maxDepth
  format := inner.format.or outer.format
  verbose := inner.verbose || outer.verbose
  maxDepth_lt depth hdepth := by
    rcases Option.or_eq_some_iff.1 hdepth with hinner | ⟨-, houter⟩
    · exact inner.maxDepth_lt depth hinner
    · exact outer.maxDepth_lt depth houter

def apply (f : Flags) (s : Settings) : Settings SystemText where
  vocabulary := f.vocabulary.or (s.vocabulary.map .text)
  maxDepth := f.maxDepth.getD s.maxDepth
  format := f.format.getD s.format

end Flags

structure Invocation where
  flags : Flags
  command : Command
  deriving DecidableEq

/-- The ends of a command line that asks for no command. -/
inductive Refusal where
  /-- The arguments make no command. -/
  | misused
  | help
  | version
  deriving DecidableEq

end LoadScript.CommandLine
