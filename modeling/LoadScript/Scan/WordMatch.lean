import LoadScript.Scan.Gap
import LoadScript.Vocabulary

/-!
Words read against a vocabulary. From a word on, further words are looked at as long as the words so far open
some keyword; the longest run of them that is itself a keyword is the match. Without a match, or if a callable
keyword is directly followed by a parenthesis, the first word alone is a name.
-/

set_option autoImplicit false
set_option relaxedAutoImplicit false

namespace LoadScript

/-- A word after the first, with the gap in front of it. -/
structure LaterWord where
  filler : List Filler
  word : List Char

def LaterWord.text (w : LaterWord) : List Char :=
  w.filler.flatMap Filler.text ++ w.word

/-- The words that make up one token and what the token is. -/
structure WordMatch where
  kind : TokenKind
  canonical : Option String
  first : List Char
  later : List LaterWord

def WordMatch.text (m : WordMatch) : List Char :=
  m.first ++ m.later.flatMap LaterWord.text

namespace Vocabulary

/-- Up to `count` further words of a text, as long as the words seen open a keyword. -/
def lookAhead (v : Vocabulary) : (count : Nat) → (seen : List (List Char)) → List Char → List LaterWord
  | 0, _, _ => []
  | count + 1, seen, text =>
    if v.isOpening seen then
      let (filler, rest) := gap text
      let word := frontWord rest
      if word.isEmpty then []
      else ⟨filler, word⟩ :: v.lookAhead count (seen ++ [word]) (afterWord rest)
    else []

/-- The longest front of the later words that spells an entry together with the first word, trying at most
`count` of them. -/
def longest? (v : Vocabulary) (first : List Char) (later : List LaterWord) :
    (count : Nat) → Option (List LaterWord × IndexEntry)
  | 0 => (v.find? [first]).map fun entry => ([], entry)
  | count + 1 =>
    match v.find? (first :: (later.take (count + 1)).map LaterWord.word) with
    | some entry => some (later.take (count + 1), entry)
    | none => v.longest? first later count

def wordMatch (v : Vocabulary) (text : List Char) : WordMatch :=
  let first := frontWord text
  let later := v.lookAhead (v.maxWords - 1) [first] (afterWord text)
  match v.longest? first later later.length with
  | none => ⟨.identifier, none, first, []⟩
  | some (taken, entry) =>
    if taken.isEmpty ∧ entry.keyword.callable ∧ (afterWord text).head? = some '(' then
      ⟨.identifier, none, first, []⟩
    else ⟨entry.keyword.tokenKind, some entry.canonical, first, taken⟩

end Vocabulary

end LoadScript
