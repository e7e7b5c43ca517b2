import LoadScript.Proofs.Scan.LetterCase
import LoadScript.Proofs.Tree.Relabelling

set_option autoImplicit false
set_option relaxedAutoImplicit false

namespace LoadScript

open Text

def Trivia.withoutText (t : Trivia) : Trivia :=
  { t with text := "" }

/-- A token at its place without what it says; the spelling in the vocabulary stays. -/
def Token.withoutTexts (t : Token) : Token :=
  { t with
    text := ""
    leading := t.leading.map Trivia.withoutText
    inner := t.inner.map Trivia.withoutText }

def Scan.withoutTexts (s : Scan) : Scan :=
  ⟨s.tokens.map Token.withoutTexts, s.trailing.map Trivia.withoutText, s.problems⟩

def Document.withoutTexts (d : Document) : Document :=
  ⟨d.items.map (Item.map Token.withoutTexts), d.trailing.map Trivia.withoutText, d.span⟩

def Reading.withoutTexts (r : Reading) : Reading :=
  ⟨r.document.withoutTexts, r.problems⟩

theorem byteLength_lowered (text : List Char) : byteLength (lowered text) = byteLength text :=
  byteLength_map_toLower text

theorem spanFrom_lowered (offset : Nat) (text : List Char) :
    spanFrom offset (lowered text) = spanFrom offset text := by
  rw [spanFrom, byteLength_lowered, spanFrom]

theorem withoutText_placed_lowered (offset : Nat) (kind : TriviaKind) (text : List Char) :
    (Trivia.placed offset kind (lowered text)).withoutText = (Trivia.placed offset kind text).withoutText := by
  rw [Trivia.placed, spanFrom_lowered]
  rfl

theorem withoutText_placeFiller_lowered (offset : Nat) (filler : List Filler) :
    (placeFiller offset (filler.map Filler.lowered)).map Trivia.withoutText =
      (placeFiller offset filler).map Trivia.withoutText := by
  induction filler generalizing offset with
  | nil => rfl
  | cons f rest ih =>
    have hlength : byteLength f.lowered.text = byteLength f.text := byteLength_lowered f.text
    rw [List.map_cons, placeFiller, List.map_cons, hlength, ih, placeFiller, List.map_cons]
    exact congrArg (· :: _) (withoutText_placed_lowered offset f.kind f.text)

theorem withoutText_innerComments_lowered (offset : Nat) (later : List LaterWord) :
    (innerComments offset (later.map LaterWord.lowered)).map Trivia.withoutText =
      (innerComments offset later).map Trivia.withoutText := by
  induction later generalizing offset with
  | nil => rfl
  | cons w rest ih =>
    have hfilter : ∀ ts : List Trivia, (ts.filter Trivia.isComment).map Trivia.withoutText =
        (ts.map Trivia.withoutText).filter Trivia.isComment := by
      intro ts
      rw [List.filter_map]
      rfl
    rw [List.map_cons, innerComments, List.map_append, hfilter, w.text_lowered, byteLength_lowered, ih,
      innerComments, List.map_append, hfilter]
    exact congrArg (fun ts => List.filter Trivia.isComment ts ++ _) (withoutText_placeFiller_lowered offset w.filler)

theorem WordMatch.withoutTexts_token_lowered (offset : Nat) {leading leading' : List Trivia}
    (hleading : leading'.map Trivia.withoutText = leading.map Trivia.withoutText) (m : WordMatch) :
    (m.lowered.token offset leading').withoutTexts = (m.token offset leading).withoutTexts := by
  have hinner := withoutText_innerComments_lowered (offset + byteLength m.first) m.later
  have hfirst : byteLength m.lowered.first = byteLength m.first := byteLength_lowered m.first
  rw [token, Token.withoutTexts, token, Token.withoutTexts, m.text_lowered, spanFrom_lowered, hfirst, hleading]
  simp only [Token.mk.injEq, true_and]
  exact ⟨rfl, hinner, rfl⟩

namespace Scan

theorem withoutTexts_consToken (t : Token) (s : Scan) :
    (s.consToken t).withoutTexts = s.withoutTexts.consToken t.withoutTexts :=
  rfl

theorem withoutTexts_consProblem (p : Problem) (s : Scan) :
    (s.consProblem p).withoutTexts = s.withoutTexts.consProblem p :=
  rfl

theorem withoutTexts_ofPieces_lowered (offset : Nat) {leading leading' : List Trivia}
    (hleading : leading'.map Trivia.withoutText = leading.map Trivia.withoutText) (ps : List Piece) :
    (ofPieces offset leading' (ps.map Piece.lowered)).withoutTexts = (ofPieces offset leading ps).withoutTexts := by
  induction ps generalizing offset leading leading' with
  | nil => exact congrArg (fun trailing => Scan.mk [] trailing []) hleading
  | cons p rest ih =>
    have hnext : ∀ (kind : TriviaKind) (text : List Char),
        (leading' ++ [Trivia.placed offset kind (lowered text)]).map Trivia.withoutText =
          (leading ++ [Trivia.placed offset kind text]).map Trivia.withoutText := by
      intro kind text
      rw [List.map_append, List.map_append, hleading, List.map_singleton, List.map_singleton,
        withoutText_placed_lowered]
    rw [List.map_cons]
    cases p with
    | trivia kind text =>
      simp only [Piece.lowered, ofPieces, Piece.text, byteLength_lowered]
      exact ih _ (hnext kind text)
    | unknown ch =>
      simp only [Piece.lowered, ofPieces, Piece.text, withoutTexts_consProblem]
      rw [ih]
      rw [List.map_append, List.map_append, hleading]
    | unterminated form text =>
      simp only [Piece.lowered, ofPieces, Piece.text, byteLength_lowered, withoutTexts_consProblem]
      rw [ih _ (hnext .skipped text)]
    | token kind text =>
      simp only [Piece.lowered, ofPieces, Piece.text, byteLength_lowered, withoutTexts_consToken, spanFrom_lowered]
      rw [ih _ rfl, Token.withoutTexts, hleading]
      rfl
    | words found =>
      simp only [Piece.lowered, ofPieces, Piece.text, found.text_lowered, byteLength_lowered,
        withoutTexts_consToken]
      rw [ih _ rfl, found.withoutTexts_token_lowered offset hleading]

end Scan

theorem withoutTexts_scan_lowered (v : Vocabulary) (source : List Char) :
    (scan v (lowered source)).withoutTexts = (scan v source).withoutTexts := by
  rw [scan_eq_ofPieces, pieces_lowered, scan_eq_ofPieces, Scan.withoutTexts_ofPieces_lowered 0 rfl]

def Relabelling.withoutTexts : Relabelling where
  token := Token.withoutTexts
  offset := id
  kind_token := fun _ => rfl
  start_token := fun _ => rfl

theorem movesSpans_withoutTexts : MovesSpans Token.withoutTexts id where
  span_token := fun _ => rfl
  span_join := fun _ _ => rfl

theorem Assembly.relabel_withoutTexts (a : Assembly) :
    a.relabel .withoutTexts = ⟨a.items.map (Item.map Token.withoutTexts), a.problems⟩ := by
  have hid : Problem.mapOffset id = id := funext Problem.mapOffset_id
  exact congrArg (Assembly.mk _) ((congrArg (List.map · a.problems) hid).trans (List.map_id _))

theorem readScript_lowered (v : Vocabulary) (limit : Nat) (source : List Char) :
    (readScript v limit (lowered source)).withoutTexts = (readScript v limit source).withoutTexts := by
  obtain ⟨htokens, htrailing, hproblems⟩ := Scan.mk.inj (withoutTexts_scan_lowered v source)
  have hassemble := assemble_relabel .withoutTexts limit (scan v (lowered source)).tokens
  have hlowered : (scan v (lowered source)).tokens.map Relabelling.withoutTexts.token =
      (scan v source).tokens.map Relabelling.withoutTexts.token := htokens
  rw [hlowered, assemble_relabel, Assembly.relabel_withoutTexts, Assembly.relabel_withoutTexts] at hassemble
  obtain ⟨hitems, hassembled⟩ := Assembly.mk.inj hassemble
  simp only [readScript, Reading.withoutTexts, Document.withoutTexts, ← hitems, htrailing, hproblems, ← hassembled,
    spanFrom_lowered]

theorem map_span_withoutTexts (v : Vocabulary) (limit : Nat) (source : List Char) :
    (readScript v limit source).document.items.map Item.span =
      (readScript v limit source).withoutTexts.document.items.map Item.span := by
  have hsolid := Progress.solid_run (p := .between) trivial (effectiveDepth limit) (scan v source).tokens
  have hmap : ∀ item ∈ (readScript v limit source).document.items,
      item.span = (item.map Token.withoutTexts).span :=
    fun item hitem => (Item.span_map movesSpans_withoutTexts (hsolid item hitem)).symm
  rw [List.map_congr_left hmap, Reading.withoutTexts, Document.withoutTexts, List.map_map]
  rfl

theorem map_ranges_withoutTexts (v : Vocabulary) (limit : Nat) (source : List Char) :
    (readScript v limit source).document.items.map Item.ranges =
      (readScript v limit source).withoutTexts.document.items.map Item.ranges := by
  have hmap : ∀ item : Item, item.ranges = (item.map Token.withoutTexts).ranges := by
    intro item
    rw [Item.ranges_map movesSpans_withoutTexts]
    exact (List.map_id _).symm
  rw [List.map_congr_left fun item _ => hmap item, Reading.withoutTexts, Document.withoutTexts, List.map_map]
  rfl

/-- Sources that differ only in the case of ASCII letters are read the same but for the texts of tokens and trivia:
the items, the nodes and all ranges are the same, and the problems. -/
theorem readScript_case_blind (v : Vocabulary) (limit : Nat) {a b : List Char}
    (h : a.map Char.toLower = b.map Char.toLower) :
    (readScript v limit a).withoutTexts = (readScript v limit b).withoutTexts ∧
      (readScript v limit a).document.items.map Item.span = (readScript v limit b).document.items.map Item.span ∧
      (readScript v limit a).document.items.map Item.ranges =
        (readScript v limit b).document.items.map Item.ranges := by
  have hreading : (readScript v limit a).withoutTexts = (readScript v limit b).withoutTexts := by
    rw [← readScript_lowered v limit a, ← readScript_lowered v limit b]
    exact congrArg (fun source => (readScript v limit source).withoutTexts) h
  rw [map_span_withoutTexts, map_ranges_withoutTexts, hreading, ← map_span_withoutTexts, ← map_ranges_withoutTexts]
  exact ⟨rfl, rfl, rfl⟩

theorem mixed_case_read_the_same :
    let v := Vocabulary.ofTable ⟨"1", [⟨"left join", .script, .leader, false⟩]⟩
    "left JOIN f(1.5e3) rem Q;".toList.map Char.toLower = "Left Join F(1.5E3) REM q;".toList.map Char.toLower ∧
      (readScript v 8 "left JOIN f(1.5e3) rem Q;".toList).withoutTexts =
        (readScript v 8 "Left Join F(1.5E3) REM q;".toList).withoutTexts ∧
      (readScript v 8 "left JOIN f(1.5e3) rem Q;".toList).document.items.map Item.ranges = [[(0, ⟨10, 18⟩)]] := by
  intro v
  have hcase : "left JOIN f(1.5e3) rem Q;".toList.map Char.toLower =
      "Left Join F(1.5E3) REM q;".toList.map Char.toLower := by
    decide +kernel
  obtain ⟨hreading, -, hranges⟩ := readScript_case_blind v 8 hcase
  refine ⟨hcase, hreading, hranges.trans ?_⟩
  decide +kernel

end LoadScript
