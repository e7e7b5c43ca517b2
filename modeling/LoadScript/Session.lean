import LoadScript.Document

set_option autoImplicit false
set_option relaxedAutoImplicit false

namespace LoadScript

/-- The state of a session. Its table need not be without fault. -/
structure Session where
  table : KeywordTable
  limit : Nat
  text : String

inductive SessionStep where
  | addKeyword (k : Keyword)
  /-- Removes the last keyword, if there is one. -/
  | dropKeyword
  | setLimit (limit : Nat)
  | setText (text : String)
  | appendText (text : String)

namespace Session

def start (table : KeywordTable) : Session :=
  ⟨table, defaultDepth, ""⟩

def apply (s : Session) : SessionStep → Session
  | .addKeyword k => { s with table := { s.table with keywords := s.table.keywords ++ [k] } }
  | .dropKeyword => { s with table := { s.table with keywords := s.table.keywords.dropLast } }
  | .setLimit limit => { s with limit := limit }
  | .setText text => { s with text := text }
  | .appendText text => { s with text := s.text ++ text }

/-- The vocabulary of a session with the reading of its text, if the table is without fault. -/
def reading (s : Session) : Except VocabularyFault (Vocabulary × Reading) :=
  (Vocabulary.accept s.table).map fun v => (v, readScript v s.limit s.text.toList)

end Session

end LoadScript
