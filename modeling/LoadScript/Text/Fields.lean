import LoadScript.Unicode.WhiteSpace

set_option autoImplicit false
set_option relaxedAutoImplicit false

namespace LoadScript.Text

open Unicode

def consFirst (c : Char) : List (List Char) → List (List Char)
  | [] => [[c]]
  | run :: rest => (c :: run) :: rest

/-- The maximal runs of characters other than white space, in order. -/
def fields : List Char → List (List Char)
  | [] => []
  | c :: rest =>
    if isWhiteSpace c then fields rest
    else if rest.head?.all isWhiteSpace then [c] :: fields rest
    else consFirst c (fields rest)

/-- The sections of a text between the places where a mark stands; there is one more of them than marks. -/
def sections (mark : Char) : List Char → List (List Char)
  | [] => [[]]
  | c :: rest => if c = mark then [] :: sections mark rest else consFirst c (sections mark rest)

def trim (text : List Char) : List Char :=
  ((text.dropWhile isWhiteSpace).reverse.dropWhile isWhiteSpace).reverse

end LoadScript.Text
