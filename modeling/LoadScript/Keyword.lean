import LoadScript.Text.Fields
import LoadScript.Token
import LoadScript.Unicode.LetterCase

/-!
Keywords and tables of keywords. A keyword is spelled with one or more words; words compare without regard to
case, and the white space between them has no meaning.
-/

set_option autoImplicit false
set_option relaxedAutoImplicit false

namespace LoadScript

open Text Unicode

structure Keyword where
  spelling : String
  tier : Tier
  role : Role
  /-- The word is also the name of a function when a parenthesis directly follows it. -/
  callable : Bool
  deriving DecidableEq

structure KeywordTable where
  version : String
  keywords : List Keyword
  deriving DecidableEq

def joinWords (words : List (List Char)) : List Char :=
  List.intercalate [' '] words

/-- The text by which words are looked up: in lower case with single spaces between them. -/
def lookupKey (words : List (List Char)) : String :=
  String.ofList (joinWords (words.map lowercase))

namespace Keyword

def words (k : Keyword) : List (List Char) :=
  fields k.spelling.toList

def key (k : Keyword) : String :=
  lookupKey k.words

/-- The spelling of a keyword in upper case with single spaces between its words. -/
def canonical (k : Keyword) : String :=
  String.ofList (joinWords (k.words.map uppercase))

def tokenKind (k : Keyword) : TokenKind :=
  match k.tier with
  | .logical => .operator .logical
  | tier => .keyword tier k.role

end Keyword

end LoadScript
