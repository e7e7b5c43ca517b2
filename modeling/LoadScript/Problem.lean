import LoadScript.Position
import LoadScript.Text.Quoted

/-!
The problems that reading a script can meet. None of them stops the reading: each is noted with its offset, and
a tree is built all the same.
-/

set_option autoImplicit false
set_option relaxedAutoImplicit false

namespace LoadScript

open Text

inductive LiteralForm where
  | singleQuoted
  | doubleQuoted
  | bracketField
  | blockComment
  | remComment
  | expansion
  deriving DecidableEq

inductive Problem where
  | unterminated (form : LiteralForm) (offset : Nat)
  | unknownCharacter (ch : Char) (offset : Nat)
  | unmatchedOpen (offset : Nat)
  | unmatchedClose (offset : Nat)
  | nestedTooDeep (offset : Nat) (limit : Nat)
  deriving DecidableEq

def LiteralForm.name : LiteralForm → String
  | .singleQuoted => "single-quoted string"
  | .doubleQuoted => "double-quoted string"
  | .bracketField => "bracket field"
  | .blockComment => "block comment"
  | .remComment => "REM comment"
  | .expansion => "macro"

namespace Problem

def offset : Problem → Nat
  | .unterminated _ offset => offset
  | .unknownCharacter _ offset => offset
  | .unmatchedOpen offset => offset
  | .unmatchedClose offset => offset
  | .nestedTooDeep offset _ => offset

def message : Problem → String
  | .unterminated form offset =>
    "unterminated " ++ form.name ++ " starting at offset " ++ toString offset
  | .unknownCharacter ch offset =>
    "unknown character " ++ String.ofList (quotedChar ch) ++ " at offset " ++ toString offset
  | .unmatchedOpen offset => "unmatched '(' at offset " ++ toString offset
  | .unmatchedClose offset => "unmatched ')' at offset " ++ toString offset
  | .nestedTooDeep offset limit =>
    "parentheses nested deeper than " ++ toString limit ++ " at offset " ++ toString offset

/-- The report of a problem: path, line, column and message. -/
def report (path : String) (source : List Char) (p : Problem) : String :=
  path ++ ":" ++ (Position.ofOffset source p.offset).text ++ ": " ++ p.message

end Problem

end LoadScript
