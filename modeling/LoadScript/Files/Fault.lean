set_option autoImplicit false
set_option relaxedAutoImplicit false

namespace LoadScript

structure SystemFault where
  code : Nat
  kind : String
  text : String
  deriving DecidableEq

namespace SystemFault

def missing : SystemFault := ⟨2, "NotFound", "No such file or directory"⟩

/-- A folder is to be made where a file is. -/
def occupied : SystemFault := ⟨17, "AlreadyExists", "File exists"⟩

/-- A file stands where a name goes on. -/
def notFolder : SystemFault := ⟨20, "NotADirectory", "Not a directory"⟩

def isFolder : SystemFault := ⟨21, "IsADirectory", "Is a directory"⟩

end SystemFault

inductive FileFault where
  | system (fault : SystemFault)
  | notText
  deriving DecidableEq

namespace FileFault

def notTextMessage : String := "stream did not contain valid UTF-8"

def message : FileFault → String
  | .system fault => fault.text ++ " (os error " ++ toString fault.code ++ ")"
  | .notText => notTextMessage

def detail : FileFault → String
  | .system fault =>
    "Os \x7b code: " ++ toString fault.code ++ ", kind: " ++ fault.kind ++ ", message: \"" ++ fault.text
      ++ "\" \x7d"
  | .notText => "Error \x7b kind: InvalidData, message: \"" ++ notTextMessage ++ "\" \x7d"

end FileFault

end LoadScript
