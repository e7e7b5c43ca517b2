import LoadScript.Proofs.Scan.Layout
import LoadScript.Proofs.Scan.Numbering

/-!
Scripts with other white space are read the same but for their places. White space is significant: it separates words
and operators, it ends a line comment, it makes a remark of the word in front of it, and none may stand between the
name of a function and its parenthesis. Other white space that starts with a newline does all of this as well. Only a
keyword with the word that starts a remark between two others of its words tells one white space from another: what
looks like a remark to the words in front of it may have a line comment inside, which ends at a newline.
-/

set_option autoImplicit false
set_option relaxedAutoImplicit false

namespace LoadScript

open Text Unicode

/-- A piece of trivia but for its place and, if it is white space, its text. -/
def Trivia.upToLayout (t : Trivia) : Trivia :=
  ⟨t.kind, if t.kind = .whitespace then "" else t.text, ⟨0, 0⟩⟩

def Token.upToLayout (t : Token) : Token :=
  { t with
    span := ⟨0, 0⟩
    leading := t.leading.map Trivia.upToLayout
    inner := t.inner.map Trivia.upToLayout }

def Scan.upToLayout (s : Scan) : Scan :=
  ⟨s.tokens.map Token.upToLayout, s.trailing.map Trivia.upToLayout, s.problems.map (Problem.mapOffset fun _ => 0)⟩

def Document.upToLayout (d : Document) : Document :=
  ⟨d.items.map (Item.map Token.upToLayout), d.trailing.map Trivia.upToLayout, ⟨0, 0⟩⟩

/-- What is read of a script but for the places, the offsets of problems and the texts of white space. -/
def Reading.upToLayout (r : Reading) : Reading :=
  ⟨r.document.upToLayout, r.problems.map (Problem.mapOffset fun _ => 0)⟩

def Trivia.relaid (blank : Nat → List Char) (t : Trivia) : List Char :=
  if t.kind = .whitespace then blank t.span.start else t.text.toList

def Token.relaid (blank : Nat → List Char) (t : Token) : List Char :=
  t.leading.flatMap (Trivia.relaid blank) ++ t.text.toList

/-- The source of a scan with something else in the place of each piece of white space, given by its offset. -/
def Scan.relaid (blank : Nat → List Char) (s : Scan) : List Char :=
  s.tokens.flatMap (Token.relaid blank) ++ s.trailing.flatMap (Trivia.relaid blank)

/-- Holds of what may stand in the place of white space: white space that starts with a newline. -/
def IsBlank (text : List Char) : Prop :=
  ∃ rest, text = '\n' :: rest ∧ ∀ c ∈ rest, isWhiteSpace c = true

def Relabelling.upToLayout : Relabelling where
  token := Token.upToLayout
  offset := fun _ => 0
  kind_token := fun _ => rfl
  start_token := fun _ => rfl

theorem upToLayout_innerComments (offset : Nat) (later : List LaterWord) :
    (innerComments offset later).map Trivia.upToLayout = (innerComments 0 later).map Trivia.upToLayout := by
  have hshift := map_shift_innerComments offset 0 later
  rw [← Nat.add_zero offset, ← hshift, List.map_map]
  rfl

theorem WordMatch.upToLayout_token {leading leading' : List Trivia} (offset offset' : Nat)
    (hleading : leading.map Trivia.upToLayout = leading'.map Trivia.upToLayout) (m : WordMatch) :
    (m.token offset leading).upToLayout = (m.token offset' leading').upToLayout := by
  have hinner := (upToLayout_innerComments (offset + byteLength m.first) m.later).trans
    (upToLayout_innerComments (offset' + byteLength m.first) m.later).symm
  simp only [token, Token.upToLayout, hleading, hinner]

namespace Scan

theorem upToLayout_consToken (t : Token) (s : Scan) :
    (s.consToken t).upToLayout = s.upToLayout.consToken t.upToLayout :=
  rfl

theorem upToLayout_consProblem (p : Problem) (s : Scan) :
    (s.consProblem p).upToLayout = s.upToLayout.consProblem (p.mapOffset fun _ => 0) :=
  rfl

theorem upToLayout_ofPieces {ps qs : List Piece} (h : Relaid ps qs) (offset offset' : Nat)
    {leading leading' : List Trivia}
    (hleading : leading.map Trivia.upToLayout = leading'.map Trivia.upToLayout) :
    (ofPieces offset leading ps).upToLayout = (ofPieces offset' leading' qs).upToLayout := by
  induction h generalizing offset offset' leading leading' with
  | nil => exact congrArg (fun trailing => Scan.mk [] trailing []) hleading
  | whiteSpace more hc hblank hrest ih =>
    rw [ofPieces, ofPieces]
    refine ih _ _ ?_
    rw [List.map_append, List.map_append, hleading]
    rfl
  | @same p ps qs hp hrest ih =>
    have hnext : ∀ (kind : TriviaKind) (text : List Char),
        (leading ++ [Trivia.placed offset kind text]).map Trivia.upToLayout =
          (leading' ++ [Trivia.placed offset' kind text]).map Trivia.upToLayout := by
      intro kind text
      rw [List.map_append, List.map_append, hleading]
      rfl
    cases p with
    | trivia kind text => exact ih _ _ (hnext kind text)
    | unknown ch =>
      rw [ofPieces, ofPieces, upToLayout_consProblem, upToLayout_consProblem, ih _ _ (hnext .skipped [ch])]
      rfl
    | unterminated form text =>
      rw [ofPieces, ofPieces, upToLayout_consProblem, upToLayout_consProblem, ih _ _ (hnext .skipped text)]
      rfl
    | token kind text =>
      rw [ofPieces, ofPieces, upToLayout_consToken, upToLayout_consToken, Token.upToLayout, Token.upToLayout, hleading]
      exact congrArg (consToken _) (ih _ _ rfl)
    | words found =>
      rw [ofPieces, ofPieces, upToLayout_consToken, upToLayout_consToken, ih _ _ rfl,
        found.upToLayout_token offset offset' hleading]

theorem numbered_relaid {ps qs : List Piece} (h : Relaid ps qs) (number : Nat) :
    numbered number ps = numbered number qs := by
  induction h generalizing number with
  | nil => rfl
  | whiteSpace more hc hblank hrest ih => exact ih (number + 1)
  | @same p ps qs hp hrest ih => cases p <;> rw [numbered, numbered, ih]

theorem relaid_consToken (blank : Nat → List Char) (t : Token) (s : Scan) :
    (s.consToken t).relaid blank = t.relaid blank ++ s.relaid blank := by
  rw [relaid, consToken, List.flatMap_cons, List.append_assoc, relaid]

theorem relaid_consProblem (blank : Nat → List Char) (p : Problem) (s : Scan) :
    (s.consProblem p).relaid blank = s.relaid blank :=
  rfl

/-- The source of a scan with other white space is that of pieces with other white space. -/
theorem exists_relaid {blank : Nat → List Char} (hblank : ∀ n, IsBlank (blank n)) {ps : List Piece}
    (hps : ∀ text, .trivia .whitespace text ∈ ps → ∃ c more, text = c :: more ∧ isWhiteSpace c = true)
    (offset : Nat) (leading : List Trivia) : ∃ qs, Relaid ps qs ∧
      (ofPieces offset leading ps).relaid blank =
        leading.flatMap (Trivia.relaid blank) ++ qs.flatMap Piece.text := by
  induction ps generalizing offset leading with
  | nil => exact ⟨[], .nil, by simp [ofPieces, relaid]⟩
  | cons p rest ih =>
    have hrest := ih fun text htext => hps text (List.mem_cons_of_mem p htext)
    cases p with
    | trivia kind text =>
      obtain ⟨qs, hqs, htext⟩ := hrest (offset + byteLength text) (leading ++ [Trivia.placed offset kind text])
      by_cases hkind : kind = .whitespace
      · obtain rfl := hkind
        obtain ⟨c, more, rfl, hc⟩ := hps text List.mem_cons_self
        obtain ⟨back, hback, hall⟩ := hblank offset
        refine ⟨_, .whiteSpace more hc hall hqs, htext.trans ?_⟩
        simp [Trivia.relaid, Trivia.placed, spanFrom, Piece.text, hback]
      · refine ⟨_, .same (fun t ht => hkind (Piece.trivia.inj ht).1) hqs, htext.trans ?_⟩
        simp [Trivia.relaid, Trivia.placed, Piece.text, hkind]
    | unknown ch =>
      obtain ⟨qs, hqs, htext⟩ :=
        hrest (offset + byteLength [ch]) (leading ++ [Trivia.placed offset .skipped [ch]])
      refine ⟨_, .same (fun t ht => Piece.noConfusion ht) hqs, ?_⟩
      rw [ofPieces, relaid_consProblem]
      refine htext.trans ?_
      simp [Trivia.relaid, Trivia.placed, Piece.text]
    | unterminated form text =>
      obtain ⟨qs, hqs, htext⟩ :=
        hrest (offset + byteLength text) (leading ++ [Trivia.placed offset .skipped text])
      refine ⟨_, .same (fun t ht => Piece.noConfusion ht) hqs, ?_⟩
      rw [ofPieces, relaid_consProblem]
      refine htext.trans ?_
      simp [Trivia.relaid, Trivia.placed, Piece.text]
    | token kind text =>
      obtain ⟨qs, hqs, htext⟩ := hrest (offset + byteLength text) []
      refine ⟨_, .same (fun t ht => Piece.noConfusion ht) hqs, ?_⟩
      rw [ofPieces, relaid_consToken]
      refine (congrArg (_ ++ ·) htext).trans ?_
      simp [Token.relaid, Piece.text]
    | words found =>
      obtain ⟨qs, hqs, htext⟩ := hrest (offset + byteLength found.text) []
      refine ⟨_, .same (fun t ht => Piece.noConfusion ht) hqs, ?_⟩
      rw [ofPieces, relaid_consToken]
      refine (congrArg (_ ++ ·) htext).trans ?_
      simp [Token.relaid, WordMatch.token, Piece.text]

end Scan

theorem map_problems_ofPieces {ps : List Piece} (hne : ∀ p ∈ ps, p.text ≠ []) (limit : Nat) :
    (sortProblems ((Scan.ofPieces 0 [] ps).allProblems limit)).map (Problem.mapOffset fun _ => 0) =
      (sortProblems ((Scan.numbered 0 ps).allProblems limit)).map (Problem.mapOffset fun _ => 0) := by
  rw [sortProblems_ofPieces hne, List.map_map]
  exact List.map_congr_left fun p _ => p.mapOffset_mapOffset _ _

theorem upToLayout_readScript {v : Vocabulary} (limit : Nat) {a b : List Char}
    (h : Relaid (pieces v a) (pieces v b)) :
    (readScript v limit b).upToLayout = (readScript v limit a).upToLayout := by
  have hne : ∀ text, ∀ p ∈ pieces v text, p.text ≠ [] := fun _ _ => text_ne_nil_of_mem_pieces
  have hscan : (Scan.ofPieces 0 [] (pieces v a)).upToLayout = (Scan.ofPieces 0 [] (pieces v b)).upToLayout :=
    Scan.upToLayout_ofPieces h 0 0 rfl
  rw [← scan_eq_ofPieces, ← scan_eq_ofPieces] at hscan
  obtain ⟨htokens, htrailing, -⟩ := Scan.mk.inj hscan
  have hitems : (assemble limit (scan v a).tokens).items.map (Item.map Token.upToLayout) =
      (assemble limit (scan v b).tokens).items.map (Item.map Token.upToLayout) := by
    have hassembled := congrArg (assemble limit) htokens
    exact congrArg Assembly.items
      ((assemble_relabel .upToLayout limit _).symm.trans (hassembled.trans (assemble_relabel .upToLayout limit _)))
  have hproblems := map_problems_ofPieces (hne a) limit
  rw [Scan.numbered_relaid h, ← map_problems_ofPieces (hne b), ← scan_eq_ofPieces, ← scan_eq_ofPieces] at hproblems
  rw [readScript, readScript, Reading.upToLayout, Reading.upToLayout, Document.upToLayout, Document.upToLayout]
  simp only [hitems, htrailing]
  exact congrArg (Reading.mk _) hproblems.symm

/-- With other white space, each piece of it starting with a newline, a script is read the same up to layout, unless
the word that starts a remark is between two words of a keyword. -/
theorem readScript_relaid {table : KeywordTable}
    (hrem : ∀ k ∈ table.keywords, ∀ w ∈ k.words.tail.dropLast, lowercase w ≠ remarkWord)
    {blank : Nat → List Char} (hblank : ∀ n, IsBlank (blank n)) (limit : Nat) (source : List Char) :
    (readScript (.ofTable table) limit ((scan (.ofTable table) source).relaid blank)).upToLayout =
      (readScript (.ofTable table) limit source).upToLayout := by
  have hspace : ∀ text, .trivia .whitespace text ∈ pieces (.ofTable table) source →
      ∃ c more, text = c :: more ∧ isWhiteSpace c = true :=
    fun _ => exists_of_whiteSpace_mem_pieces
  obtain ⟨qs, hqs, htext⟩ := Scan.exists_relaid hblank hspace 0 []
  rw [← scan_eq_ofPieces, List.flatMap_nil, List.nil_append] at htext
  have hpieces := (pieces_relaid (Vocabulary.stopsAtRemarks_ofTable hrem) source hqs).1
  refine upToLayout_readScript limit ?_
  rwa [htext, hpieces]

/-- Other white space between statements, around comments, and around a keyword that ends in the word of remarks. -/
theorem relaid_statements_read_the_same :
    let table : KeywordTable := ⟨"1", [⟨"left join", .script, .leader, false⟩, ⟨"no rem", .script, .clause, false⟩]⟩
    let source := " left join f(a) // b\n no rem c ;rem d; e".toList
    let other := "\nleft join\n\tf(a)\n// b\n\t\tno rem\n\tc\n;rem d;\n\t\te".toList
    let blank := fun n => '\n' :: List.replicate (n % 3) '\t'
    (∀ k ∈ table.keywords, ∀ w ∈ k.words.tail.dropLast, lowercase w ≠ remarkWord) ∧ (∀ n, IsBlank (blank n)) ∧
      (scan (.ofTable table) source).relaid blank = other ∧
      (readScript (.ofTable table) 8 other).upToLayout = (readScript (.ofTable table) 8 source).upToLayout := by
  intro table source other blank
  have hrem : ∀ k ∈ table.keywords, ∀ w ∈ k.words.tail.dropLast, lowercase w ≠ remarkWord := by decide +kernel
  have hblank : ∀ n, IsBlank (blank n) := by
    intro n
    refine ⟨_, rfl, fun c hc => ?_⟩
    rw [List.eq_of_mem_replicate hc]
    decide
  have hrelaid : (scan (.ofTable table) source).relaid blank = other := by decide +kernel
  have hreading := readScript_relaid hrem hblank 8 source
  rw [hrelaid] at hreading
  exact ⟨hrem, hblank, hrelaid, hreading⟩

/-- In front of a newline a line comment ends, and behind it the last word of a keyword is found. -/
theorem remark_between_words_tells_layout :
    let table : KeywordTable := ⟨"1", [⟨"foo rem x", .script, .leader, false⟩]⟩
    let v := Vocabulary.ofTable table
    let blank := fun _ : Nat => ['\n']
    Vocabulary.accept table = .ok v ∧ (∀ n, IsBlank (blank n)) ∧
      (scan v "foo rem // ; x".toList).relaid blank = "foo\nrem // ;\nx".toList ∧
      (readScript v 8 ((scan v "foo rem // ; x".toList).relaid blank)).upToLayout ≠
        (readScript v 8 "foo rem // ; x".toList).upToLayout := by
  intro table v blank
  have hfault : table.fault? = none := by decide +kernel
  refine ⟨by rw [Vocabulary.accept, hfault], fun n => ⟨[], rfl, by simp⟩, by decide +kernel, fun h => ?_⟩
  have hlength := congrArg (fun r => r.document.tokens.length) h
  exact absurd hlength (by decide +kernel)

end LoadScript
