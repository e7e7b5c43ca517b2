import LoadScript.Proofs.Scan.Layout

/-!
The lexical grammar of scripts, stated without the reader. Where rules overlap, a piece is the longest front of its
text that its rule allows; what a piece looks like may therefore depend on the text behind it.
-/

set_option autoImplicit false
set_option relaxedAutoImplicit false

namespace LoadScript

open Text Unicode

/-- Holds of a front with a property, given the text behind it, if no longer front has the property. -/
structure LongestFront (P : List Char → Prop) (front after : List Char) : Prop where
  holds : P front
  length_le : ∀ other, P other → other <+: front ++ after → other.length ≤ front.length

def IsRun (p : Char → Bool) (text : List Char) : Prop :=
  text ≠ [] ∧ ∀ c ∈ text, p c = true

def IsWord (text : List Char) : Prop :=
  ∃ first more, text = first :: more ∧ isWordStart first = true ∧ ∀ c ∈ more, isWordPart c = true

/-- Holds of a text that starts with the word `REM`, in any case, and white space directly behind it. -/
def OpensRemark (text : List Char) : Prop :=
  ∃ word blank back, text = word ++ blank :: back ∧ word.map Char.toLower = remarkWord ∧ isWhiteSpace blank = true

def IsExponent (text : List Char) : Prop :=
  ∃ letter sign digits, text = letter :: (sign ++ digits) ∧ letter ∈ ['e', 'E'] ∧ sign ∈ [[], ['+'], ['-']] ∧
    IsRun isDigit digits

inductive IsNumeral : NumberForm → List Char → Prop
  | integer {whole : List Char} : IsRun isDigit whole → IsNumeral .integer whole
  | float {whole fraction exponent : List Char} : IsRun isDigit whole → IsRun isDigit fraction →
    exponent = [] ∨ IsExponent exponent → IsNumeral .float (whole ++ '.' :: (fraction ++ exponent))

def comparisons : List (List Char) :=
  [['<', '>'], ['<', '='], ['>', '='], ['<', '<'], ['>', '>'], ['<'], ['>'], ['=']]

/-- Holds of an opening mark, a body without the closing mark, and the closing mark. -/
def IsDelimited (opening : List Char) (closing : Char) (text : List Char) : Prop :=
  ∃ body, text = opening ++ body ++ [closing] ∧ closing ∉ body

/-- Holds of text from slash and star through the first star and slash behind them. -/
def IsBlockComment (text : List Char) : Prop :=
  ∃ body, text = ['/', '*'] ++ body ++ ['*', '/'] ∧ ¬['*', '/'] <:+: body ++ ['*']

def StartsNothing (c : Char) (after : List Char) : Prop :=
  isWhiteSpace c = false ∧ isDigit c = false ∧ isWordStart c = false ∧
    c ∉ ['\'', '"', '[', '<', '>', '=', '&', '+', '-', '*', '/', ';', ',', ':', '(', ')'] ∧
    ¬['$', '('] <+: c :: after

def IsUnclosed (text : List Char) : Prop :=
  (∃ delimiter : Delimiter, ∃ body, text = delimiter.opening ++ body ∧ delimiter.closing ∉ body) ∨
    (∃ body, text = ['/', '*'] ++ body ∧ ¬['*', '/'] <:+: body) ∨ OpensRemark text ∧ ';' ∉ text

/-- What trivia of a kind looks like in front of a text. -/
def TriviaKind.Shape (kind : TriviaKind) (text after : List Char) : Prop :=
  match kind with
  | .whitespace => LongestFront (IsRun isWhiteSpace) text after
  | .lineComment => ['/', '/'] <+: text ∧ '\n' ∉ text ∧ (after = [] ∨ after.head? = some '\n')
  | .blockComment => IsBlockComment text
  | .remComment => OpensRemark text ∧ IsDelimited [] ';' text
  | .skipped => (∃ c, text = [c] ∧ StartsNothing c after) ∨ IsUnclosed text ∧ after = []

/-- White space and complete comments, one behind the other, in front of a text. -/
inductive IsGap : List Char → List Char → Prop
  | one {kind : TriviaKind} {text after : List Char} : kind ∈ gapKinds → kind.Shape text after → IsGap text after
  | cons {kind : TriviaKind} {text rest after : List Char} : kind ∈ gapKinds → kind.Shape text (rest ++ after) →
    IsGap rest after → IsGap (text ++ rest) after

/-- Whole words with a gap between each two of them, in front of a text. -/
inductive IsPhrase : List Char → List Char → Prop
  | one {word after : List Char} : LongestFront IsWord word after → IsPhrase word after
  | cons {word filler rest after : List Char} : LongestFront IsWord word (filler ++ rest ++ after) →
    IsGap filler (rest ++ after) → IsPhrase rest after → IsPhrase (word ++ filler ++ rest) after

/-- What a token of a kind looks like in front of a text. -/
def TokenKind.Shape (kind : TokenKind) (text after : List Char) : Prop :=
  match kind with
  | .identifier => LongestFront IsWord text after ∧ ¬OpensRemark (text ++ after)
  | .keyword _ _ | .operator .logical => IsPhrase text after ∧ ¬OpensRemark (text ++ after)
  | .stringLiteral .single => IsDelimited ['\''] '\'' text
  | .stringLiteral .double => IsDelimited ['"'] '"' text
  | .bracketField => IsDelimited ['['] ']' text
  | .expansion => IsDelimited ['$', '('] ')' text
  | .number form =>
    LongestFront (fun front => ∃ form, IsNumeral form front) text after ∧ ∀ f, IsNumeral f text ↔ f = form
  | .operator .comparison => LongestFront (· ∈ comparisons) text after
  | .operator .arithmetic => (∃ c ∈ ['&', '+', '-', '*', '/'], text = [c]) ∧
    ¬['/', '/'] <+: text ++ after ∧ ¬['/', '*'] <+: text ++ after
  | .semicolon => text = [';']
  | .comma => text = [',']
  | .colon => text = [':']
  | .leftParen => text = ['(']
  | .rightParen => text = [')']

theorem isPrefix_takeWhile {p : Char → Bool} {front text : List Char} (h : front <+: text)
    (hfront : ∀ c ∈ front, p c = true) : front <+: text.takeWhile p := by
  obtain ⟨back, rfl⟩ := h
  rw [List.takeWhile_append_of_pos hfront]
  exact List.prefix_append front _

theorem mem_takeWhile {p : Char → Bool} {text : List Char} {c : Char} (h : c ∈ text.takeWhile p) : p c = true :=
  List.all_eq_true.1 List.all_takeWhile c h

theorem isRun_takeWhile {p : Char → Bool} {text : List Char} (h : text.takeWhile p ≠ []) :
    IsRun p (text.takeWhile p) :=
  ⟨h, fun _ => mem_takeWhile⟩

theorem longestFront_takeWhile {p : Char → Bool} {text : List Char} (h : text.takeWhile p ≠ []) :
    LongestFront (IsRun p) (text.takeWhile p) (text.dropWhile p) where
  holds := isRun_takeWhile h
  length_le := by
    intro other hother hbegins
    rw [List.takeWhile_append_dropWhile] at hbegins
    exact (isPrefix_takeWhile hbegins hother.2).length_le

theorem longestFront_frontWord {text : List Char} (h : frontWord text ≠ []) :
    LongestFront IsWord (frontWord text) (afterWord text) where
  holds := by
    obtain ⟨c, rest, rfl, hc⟩ := exists_cons_of_frontWord_ne_nil h
    exact ⟨c, rest.takeWhile isWordPart, if_pos hc, hc, fun _ => mem_takeWhile⟩
  length_le := by
    rintro _ ⟨first, more, rfl, -, hmore⟩ hbegins
    obtain ⟨c, rest, rfl, hc⟩ := exists_cons_of_frontWord_ne_nil h
    rw [frontWord_append_afterWord] at hbegins
    have hrest := (isPrefix_takeWhile (List.cons_prefix_cons.1 hbegins).2 hmore).length_le
    rw [frontWord, if_pos hc]
    exact Nat.succ_le_succ hrest

section Closing

variable {text inside after : List Char}

theorem isDelimited_of_throughChar? {closing : Char} (h : throughChar? closing text = some (inside, after)) :
    IsDelimited [] closing inside := by
  induction text generalizing inside with
  | nil => exact absurd h.symm (Option.some_ne_none _)
  | cons c rest ih =>
    rw [throughChar?] at h
    split at h
    · next hclosing =>
      obtain ⟨rfl, rfl⟩ := Prod.mk.inj (Option.some.inj h)
      exact ⟨[], by rw [hclosing]; rfl, List.not_mem_nil⟩
    · next hclosing =>
      obtain ⟨⟨front, back⟩, hrest, hsame⟩ := Option.map_eq_some_iff.1 h
      obtain ⟨rfl, rfl⟩ := Prod.mk.inj hsame
      obtain ⟨body, rfl, hbody⟩ := ih hrest
      refine ⟨c :: body, rfl, fun hmem => ?_⟩
      rcases List.mem_cons.1 hmem with rfl | hmem
      · exact hclosing rfl
      · exact hbody hmem

theorem not_mem_of_throughChar?_eq_none {closing : Char} (h : throughChar? closing text = none) :
    closing ∉ text := by
  induction text with
  | nil => exact List.not_mem_nil
  | cons c rest ih =>
    rw [throughChar?] at h
    split at h
    · exact absurd h (Option.some_ne_none _)
    · next hclosing =>
      intro hmem
      rcases List.mem_cons.1 hmem with rfl | hmem
      · exact hclosing rfl
      · exact ih (Option.map_eq_none_iff.1 h) hmem

theorem starSlash_isInfix_cons {c : Char} {rest : List Char} :
    ['*', '/'] <:+: c :: rest ↔ (c = '*' ∧ rest.head? = some '/') ∨ ['*', '/'] <:+: rest := by
  have hslash : ['/'] <+: rest ↔ rest.head? = some '/' := by
    cases rest with
    | nil => simp
    | cons d more => simp [List.cons_prefix_cons, eq_comm]
  rw [List.infix_cons_iff, List.cons_prefix_cons, hslash, eq_comm]

theorem body_of_throughStarSlash? (h : throughStarSlash? text = some (inside, after)) :
    ∃ body, inside = body ++ ['*', '/'] ∧ ¬['*', '/'] <:+: body ++ ['*'] := by
  induction text generalizing inside with
  | nil => exact absurd h.symm (Option.some_ne_none _)
  | cons c rest ih =>
    rw [throughStarSlash?] at h
    split at h
    · obtain ⟨rfl, rfl⟩ := Prod.mk.inj (Option.some.inj h)
      exact ⟨[], rfl, by decide⟩
    · next hmark =>
      obtain ⟨⟨front, back⟩, hrest, hsame⟩ := Option.map_eq_some_iff.1 h
      obtain ⟨rfl, rfl⟩ := Prod.mk.inj hsame
      obtain ⟨body, rfl, hbody⟩ := ih hrest
      refine ⟨c :: body, rfl, fun hinfix => ?_⟩
      rcases starSlash_isInfix_cons.1 hinfix with ⟨rfl, hslash⟩ | hinfix
      · -- the slash would stand directly behind the star in the text as well
        refine hmark ⟨rfl, ?_⟩
        rw [← append_of_throughStarSlash? hrest]
        cases body with
        | nil => exact absurd hslash (by decide)
        | cons d more => exact hslash
      · exact hbody hinfix

theorem not_isInfix_of_throughStarSlash?_eq_none (h : throughStarSlash? text = none) :
    ¬['*', '/'] <:+: text := by
  induction text with
  | nil => decide
  | cons c rest ih =>
    rw [throughStarSlash?] at h
    split at h
    · exact absurd h (Option.some_ne_none _)
    · next hmark =>
      intro hinfix
      rcases starSlash_isInfix_cons.1 hinfix with hmark' | hinfix
      · exact hmark hmark'
      · exact ih (Option.map_eq_none_iff.1 h) hinfix

end Closing

end LoadScript
