import LoadScript.Files.Fault
import LoadScript.Text.System

/-!
Access to files as a program needs it. What the program does with files is written once, over any monad that
offers these three questions.
-/

set_option autoImplicit false
set_option relaxedAutoImplicit false

namespace LoadScript

structure FileAccess (m : Type → Type) where
  present : String → m Bool
  read : SystemText → m (Except FileFault String)
  save : (path text : String) → m (Except FileFault Unit)

end LoadScript
