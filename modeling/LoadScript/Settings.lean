import LoadScript.Document
import LoadScript.Json.Value
import LoadScript.Text.System
import LoadScript.Vocabulary.File

set_option autoImplicit false
set_option relaxedAutoImplicit false

namespace LoadScript

open Json

inductive OutputFormat where
  | text
  | json
  deriving DecidableEq

def OutputFormat.word : OutputFormat → String
  | .text => "text"
  | .json => "json"

def formatChoices : List (String × OutputFormat) :=
  [OutputFormat.text, .json].map fun format => (format.word, format)

/-- The settings of the program. Those that are kept have a text for a path; the flags of a run can give one that is
no text. -/
structure Settings (Path : Type := String) where
  vocabulary : Option Path := none
  maxDepth : Nat := defaultDepth
  format : OutputFormat := .text
  deriving DecidableEq

structure SettingsDraft where
  vocabulary : Option (Option String)
  maxDepth : Option Nat
  format : Option OutputFormat

namespace Settings

def fields : List (FieldReader SettingsDraft) :=
  [optionField "vocabulary" SettingsDraft.vocabulary (fun s value => { s with vocabulary := some value })
    (optional string),
   optionField "max_depth" SettingsDraft.maxDepth (fun s value => { s with maxDepth := some value }) natural,
   optionField "format" SettingsDraft.format (fun s value => { s with format := some value })
    (choice formatChoices)]

/-- The settings with defaults for what was not read. -/
def ofDraft (s : SettingsDraft) : Settings where
  vocabulary := s.vocabulary.getD none
  maxDepth := s.maxDepth.getD defaultDepth
  format := s.format.getD .text

def reader : Reader Settings :=
  record fields ⟨none, none, none⟩ fun s => some (ofDraft s)

def ofJson (text : String) : Except Fault Settings :=
  document reader text.toList

def pathValue (path : Option String) : Value :=
  match path with
  | some path => .string path
  | none => .null

def members (s : Settings) : List (String × Value) :=
  [("vocabulary", pathValue s.vocabulary), ("max_depth", .number s.maxDepth), ("format", .string s.format.word)]

def toJson (s : Settings) : Value :=
  .object s.members

def text (s : Settings) : String :=
  s.toJson.indentedText

def onSystem (s : Settings) : Settings SystemText where
  vocabulary := s.vocabulary.map .text
  maxDepth := s.maxDepth
  format := s.format

/-- The settings of a run as they could be kept, if their path is a text. -/
def ofSystem? (s : Settings SystemText) : Option Settings :=
  match s.vocabulary with
  | none => some ⟨none, s.maxDepth, s.format⟩
  | some (.text path) => some ⟨path, s.maxDepth, s.format⟩
  | some (.bytes _ _) => none

end Settings

end LoadScript
