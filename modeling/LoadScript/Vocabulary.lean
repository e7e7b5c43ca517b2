import LoadScript.Keyword
import LoadScript.Text.Quoted
import LoadScript.Word

/-!
Vocabularies: tables of keywords that can be asked questions. A table is accepted if each spelling consists of
whole words, word operators are single words, and no two spellings agree up to case. An accepted table is then
indexed by its lookup texts, together with the openings of its keywords of several words.
-/

set_option autoImplicit false
set_option relaxedAutoImplicit false

namespace LoadScript

open Text

inductive VocabularyFault where
  | emptySpelling
  | invalidWord (spelling word : String)
  | multiWordOperator (spelling : String)
  | duplicate (canonical : String)
  deriving DecidableEq

namespace VocabularyFault

def message : VocabularyFault → String
  | .emptySpelling => "keyword spelling is empty"
  | .invalidWord spelling word =>
    "keyword " ++ quote spelling ++ " contains " ++ quote word ++ ", which is not a single word"
  | .multiWordOperator spelling => "logical operator " ++ quote spelling ++ " must be a single word"
  | .duplicate canonical => "keyword " ++ quote canonical ++ " is listed more than once"

def detail : VocabularyFault → String
  | .emptySpelling => "EmptySpelling"
  | .invalidWord spelling word =>
    "InvalidWord \x7b spelling: " ++ quote spelling ++ ", word: " ++ quote word ++ " \x7d"
  | .multiWordOperator spelling => "MultiWordOperator(" ++ quote spelling ++ ")"
  | .duplicate canonical => "Duplicate(" ++ quote canonical ++ ")"

end VocabularyFault

/-- The fault of a single keyword, given the lookup texts of the keywords before it. -/
def Keyword.fault? (seen : List String) (k : Keyword) : Option VocabularyFault :=
  if k.words.isEmpty then some .emptySpelling
  else match k.words.find? (fun word => !isWholeWord word) with
    | some word => some (.invalidWord k.spelling (String.ofList word))
    | none =>
      if k.tier = .logical ∧ 1 < k.words.length then some (.multiWordOperator k.spelling)
      else if k.key ∈ seen then some (.duplicate k.canonical)
      else none

def firstFault? (seen : List String) : List Keyword → Option VocabularyFault
  | [] => none
  | k :: rest =>
    match k.fault? seen with
    | some fault => some fault
    | none => firstFault? (k.key :: seen) rest

def KeywordTable.fault? (table : KeywordTable) : Option VocabularyFault :=
  firstFault? [] table.keywords

/-- A keyword with the text it is found by and the spelling that its tokens carry. -/
structure IndexEntry where
  key : String
  canonical : String
  keyword : Keyword

structure Vocabulary where
  table : KeywordTable
  index : List IndexEntry
  /-- The lookup texts of the openings of keywords of several words. -/
  openings : List String
  /-- The number of words of the longest keyword, and at least one. -/
  maxWords : Nat

/-- The nonempty openings of a list of words that leave at least one word out. -/
def properOpenings (words : List (List Char)) : List (List (List Char)) :=
  (List.range (words.length - 1)).map fun n => words.take (n + 1)

namespace Vocabulary

/-- The index of a table, whether or not the table is without fault. -/
def ofTable (table : KeywordTable) : Vocabulary where
  table := table
  index := table.keywords.map fun k => ⟨k.key, k.canonical, k⟩
  openings := table.keywords.flatMap fun k => (properOpenings k.words).map lookupKey
  maxWords := (table.keywords.map fun k => k.words.length).foldl max 1

def accept (table : KeywordTable) : Except VocabularyFault Vocabulary :=
  match table.fault? with
  | some fault => .error fault
  | none => .ok (ofTable table)

def size (v : Vocabulary) : Nat :=
  v.table.keywords.length

def find? (v : Vocabulary) (words : List (List Char)) : Option IndexEntry :=
  if words.isEmpty ∨ v.maxWords < words.length then none
  else v.index.find? fun entry => entry.key == lookupKey words

/-- Holds if some keyword starts with the given words and goes on. -/
def isOpening (v : Vocabulary) (words : List (List Char)) : Bool :=
  v.openings.contains (lookupKey words)

end Vocabulary

end LoadScript
