import LoadScript.Problem
import LoadScript.Scan.Number
import LoadScript.Scan.WordMatch

/-!
Pieces of a script. The first character of a text, together with the one after it, announces what kind of piece
starts there; the piece is then read as far as its rule goes. Reading piece after piece uses up every text, and
nothing is left out: the texts of the pieces follow each other without a gap.
-/

set_option autoImplicit false
set_option relaxedAutoImplicit false

namespace LoadScript

open Text Unicode

/-- The literals that run from an opening mark to the first closing mark. -/
inductive Delimiter where
  | single
  | double
  | bracket
  | expansion
  deriving DecidableEq

namespace Delimiter

def closing : Delimiter → Char
  | .single => '\''
  | .double => '"'
  | .bracket => ']'
  | .expansion => ')'

def opening : Delimiter → List Char
  | .single => ['\'']
  | .double => ['"']
  | .bracket => ['[']
  | .expansion => ['$', '(']

def tokenKind : Delimiter → TokenKind
  | .single => .stringLiteral .single
  | .double => .stringLiteral .double
  | .bracket => .bracketField
  | .expansion => .expansion

def form : Delimiter → LiteralForm
  | .single => .singleQuoted
  | .double => .doubleQuoted
  | .bracket => .bracketField
  | .expansion => .expansion

end Delimiter

inductive Lead where
  | whitespace
  | lineComment
  | blockComment
  | literal (delimiter : Delimiter)
  | number
  | comparison
  | arithmetic
  /-- A mark of one character that is a token by itself. -/
  | mark (kind : TokenKind)
  | word
  | unknown
  deriving DecidableEq

def Lead.of (c : Char) (next : Option Char) : Lead :=
  if isWhiteSpace c then .whitespace
  else if c = '/' ∧ next = some '/' then .lineComment
  else if c = '/' ∧ next = some '*' then .blockComment
  else if c = '\'' then .literal .single
  else if c = '"' then .literal .double
  else if c = '[' then .literal .bracket
  else if c = '$' ∧ next = some '(' then .literal .expansion
  else if isDigit c then .number
  else if isComparisonSign c then .comparison
  else if isArithmeticSign c then .arithmetic
  else if c = ';' then .mark .semicolon
  else if c = ',' then .mark .comma
  else if c = ':' then .mark .colon
  else if c = '(' then .mark .leftParen
  else if c = ')' then .mark .rightParen
  else if isWordStart c then .word
  else .unknown

/-- A piece of a script, without its place. -/
inductive Piece where
  | trivia (kind : TriviaKind) (text : List Char)
  | unknown (ch : Char)
  /-- A literal or comment that is open at the end of the text. -/
  | unterminated (form : LiteralForm) (text : List Char)
  | token (kind : TokenKind) (text : List Char)
  | words (found : WordMatch)

def Piece.text : Piece → List Char
  | .trivia _ text => text
  | .unknown ch => [ch]
  | .unterminated _ text => text
  | .token _ text => text
  | .words found => found.text

def longComparisons : List (Char × Char) :=
  [('<', '>'), ('<', '='), ('>', '='), ('<', '<'), ('>', '>')]

/-- Holds of a text that starts with the word `REM` in any case and white space directly behind it. -/
def startsRemark : List Char → Bool
  | r :: e :: m :: blank :: _ =>
    (r == 'r' || r == 'R') && (e == 'e' || e == 'E') && (m == 'm' || m == 'M') && isWhiteSpace blank
  | _ => false

def cut (piece : List Char → Piece) (text front : List Char) : Piece × List Char :=
  (piece front, text.drop front.length)

/-- A piece that runs through its closing mark, or through everything if there is none. -/
def closed (piece : List Char → Piece) (form : LiteralForm) (opening body : List Char) :
    Option (List Char × List Char) → Piece × List Char
  | some (inside, after) => (piece (opening ++ inside), after)
  | none => (.unterminated form (opening ++ body), [])

/-- The piece at the front of a text with a first character, and the text after the piece. -/
def frontPiece (v : Vocabulary) (c : Char) (rest : List Char) : Piece × List Char :=
  match Lead.of c rest.head? with
  | .whitespace => cut (.trivia .whitespace) (c :: rest) (c :: rest.takeWhile isWhiteSpace)
  | .lineComment => cut (.trivia .lineComment) (c :: rest) (c :: rest.takeWhile (· ≠ '\n'))
  | .blockComment =>
    closed (.trivia .blockComment) .blockComment ['/', '*'] rest.tail (throughStarSlash? rest.tail)
  | .literal delimiter =>
    let body := (c :: rest).drop delimiter.opening.length
    closed (.token delimiter.tokenKind) delimiter.form delimiter.opening body
      (throughChar? delimiter.closing body)
  | .number =>
    let (form, text) := frontNumber (c :: rest)
    cut (.token (.number form)) (c :: rest) text
  | .comparison =>
    cut (.token (.operator .comparison)) (c :: rest)
      (if rest.head?.any fun d => longComparisons.contains (c, d) then (c :: rest).take 2 else [c])
  | .arithmetic => cut (.token (.operator .arithmetic)) (c :: rest) [c]
  | .mark kind => cut (.token kind) (c :: rest) [c]
  | .word =>
    if startsRemark (c :: rest) then
      closed (.trivia .remComment) .remComment [] (c :: rest) (throughChar? ';' (c :: rest))
    else
      let found := v.wordMatch (c :: rest)
      (.words found, (c :: rest).drop found.text.length)
  | .unknown => cut (fun _ => .unknown c) (c :: rest) [c]

private theorem Lead.eq_of_ite_eq {p : Prop} [Decidable p] {a b lead : Lead}
    (h : (if p then a else b) = lead) (hne : a ≠ lead) : b = lead := by
  by_cases hp : p
  · exact absurd (by simpa [hp] using h) hne
  · simpa [hp] using h

private theorem Lead.holds_of_ite_eq {p : Prop} [Decidable p] {a b lead : Lead}
    (h : (if p then a else b) = lead) (hne : b ≠ lead) : p := by
  by_cases hp : p
  · exact hp
  · exact absurd (by simpa [hp] using h) hne

theorem Lead.isWordStart_of_of_eq_word {c : Char} {next : Option Char} (h : Lead.of c next = .word) :
    isWordStart c = true := by
  unfold Lead.of at h
  iterate 15 replace h := Lead.eq_of_ite_eq h (by decide)
  exact Lead.holds_of_ite_eq h (by decide)

theorem Lead.isDigit_of_of_eq_number {c : Char} {next : Option Char} (h : Lead.of c next = .number) :
    isDigit c = true := by
  unfold Lead.of at h
  iterate 7 replace h := Lead.eq_of_ite_eq h (by decide)
  by_cases hdigit : isDigit c = true
  · exact hdigit
  · rw [if_neg hdigit] at h
    iterate 7 replace h := Lead.eq_of_ite_eq h (by decide)
    exact absurd (Lead.eq_of_ite_eq h (by decide)) (by decide)

private theorem length_cut_lt {piece : List Char → Piece} {text front : List Char} (htext : text ≠ [])
    (hfront : front ≠ []) : (cut piece text front).2.length < text.length := by
  have := List.length_pos_iff.2 htext
  have := List.length_pos_iff.2 hfront
  simp only [cut, List.length_drop]
  omega

private theorem frontNumber_ne_nil {c : Char} {rest : List Char} (h : isDigit c = true) :
    (frontNumber (c :: rest)).2 ≠ [] := by
  simp only [frontNumber]
  split <;> simp [frontDigits, h]

private theorem wordMatch_text_ne_nil {v : Vocabulary} {text : List Char} (h : frontWord text ≠ []) :
    (v.wordMatch text).text ≠ [] := by
  simp only [Vocabulary.wordMatch]
  split
  · simp [WordMatch.text, h]
  · split <;> simp [WordMatch.text, h]

theorem length_frontPiece_lt (v : Vocabulary) (c : Char) (rest : List Char) :
    (frontPiece v c rest).2.length < (c :: rest).length := by
  unfold frontPiece
  split
  · exact length_cut_lt (by simp) (by simp)
  · exact length_cut_lt (by simp) (by simp)
  · cases h : throughStarSlash? rest.tail with
    | none => simp [closed]
    | some split =>
      have := length_le_of_throughStarSlash? h
      simp only [closed, List.length_cons, List.length_tail] at this ⊢
      omega
  · next delimiter _ =>
    have hopening : 0 < delimiter.opening.length := by cases delimiter <;> simp [Delimiter.opening]
    simp only
    cases h : throughChar? delimiter.closing ((c :: rest).drop delimiter.opening.length) with
    | none => simp [closed]
    | some split =>
      have := length_le_of_throughChar? h
      simp only [closed, List.length_cons, List.length_drop] at this ⊢
      omega
  · next hlead => exact length_cut_lt (by simp) (frontNumber_ne_nil (Lead.isDigit_of_of_eq_number hlead))
  · refine length_cut_lt (by simp) ?_
    split <;> simp
  · exact length_cut_lt (by simp) (by simp)
  · exact length_cut_lt (by simp) (by simp)
  · next hlead =>
    split
    · cases h : throughChar? ';' (c :: rest) with
      | none => simp [closed]
      | some split => simpa [closed] using length_lt_of_throughChar? h
    · have hword : frontWord (c :: rest) ≠ [] := by
        simp [frontWord, Lead.isWordStart_of_of_eq_word hlead]
      have := List.length_pos_iff.2 (wordMatch_text_ne_nil (v := v) hword)
      simp only [List.length_drop, List.length_cons]
      omega
  · exact length_cut_lt (by simp) (by simp)

def pieces (v : Vocabulary) : List Char → List Piece
  | [] => []
  | c :: rest => (frontPiece v c rest).1 :: pieces v (frontPiece v c rest).2
termination_by text => text.length
decreasing_by exact length_frontPiece_lt v c rest

end LoadScript
