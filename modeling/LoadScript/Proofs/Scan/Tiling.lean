import LoadScript.Proofs.Scan.Pieces
import LoadScript.Proofs.Text.Slice

set_option autoImplicit false
set_option relaxedAutoImplicit false

namespace LoadScript

open Text

def Trivia.part (t : Trivia) : Part :=
  ⟨t.text, t.span⟩

/-- A token as a part of its source, behind the trivia in front of it. -/
def Token.parts (t : Token) : List Part :=
  t.leading.map Trivia.part ++ [⟨t.text, t.span⟩]

def Scan.parts (s : Scan) : List Part :=
  s.tokens.flatMap Token.parts ++ s.trailing.map Trivia.part

/-- Holds of comments that lie strictly inside a range, one behind the other, each with its text. -/
structure LiesInside (source : List Char) (s : Span) (comments : List Trivia) : Prop where
  within : ∀ c ∈ comments, s.start < c.span.start ∧ c.span.start < c.span.stop ∧ c.span.stop < s.stop
  ordered : comments.Pairwise fun a b => a.span.stop ≤ b.span.start
  isSlice : ∀ c ∈ comments, IsSlice source c.span c.text

namespace LiesInside

variable {source : List Char} {start middle stop : Nat} {front back : List Trivia}

theorem nil (source : List Char) (s : Span) : LiesInside source s [] where
  within := by simp
  ordered := List.Pairwise.nil
  isSlice := by simp

theorem filter_of_tiles {first last : Nat} (p : Trivia → Bool)
    (htiles : Tiles source first last (front.map Trivia.part)) (hfirst : start < first)
    (hlast : last < stop) : LiesInside source ⟨start, stop⟩ (front.filter p) where
  within := by
    intro c hc
    obtain ⟨hstart, hlt, hstop⟩ :=
      htiles.within (List.mem_map_of_mem (f := Trivia.part) (List.mem_filter.1 hc).1)
    exact ⟨Nat.lt_of_lt_of_le hfirst hstart, hlt, Nat.lt_of_le_of_lt hstop hlast⟩
  ordered := (List.pairwise_map.1 htiles.ordered).filter p
  isSlice := by
    intro c hc
    exact htiles.isSlice (List.mem_map_of_mem (f := Trivia.part) (List.mem_filter.1 hc).1)

theorem append (hfront : LiesInside source ⟨start, middle + 1⟩ front)
    (hback : LiesInside source ⟨middle, stop⟩ back) (hstart : start ≤ middle)
    (hstop : middle < stop) : LiesInside source ⟨start, stop⟩ (front ++ back) where
  within := by
    intro c hc
    rcases List.mem_append.1 hc with hc | hc
    · obtain ⟨hlo, hlt, hhi⟩ := hfront.within c hc
      exact ⟨hlo, hlt, Nat.lt_of_lt_of_le hhi hstop⟩
    · obtain ⟨hlo, hlt, hhi⟩ := hback.within c hc
      exact ⟨Nat.lt_of_le_of_lt hstart hlo, hlt, hhi⟩
  ordered := by
    refine List.pairwise_append.2 ⟨hfront.ordered, hback.ordered, ?_⟩
    intro a ha b hb
    have hhi := (hfront.within a ha).2.2
    have hlo := (hback.within b hb).1
    exact Nat.le_trans (Nat.le_of_lt_succ hhi) (Nat.le_of_lt hlo)
  isSlice := by
    intro c hc
    rcases List.mem_append.1 hc with hc | hc
    · exact hfront.isSlice c hc
    · exact hback.isSlice c hc

end LiesInside

namespace Scan

@[simp]
theorem parts_consProblem (p : Problem) (s : Scan) : (s.consProblem p).parts = s.parts :=
  rfl

@[simp]
theorem parts_consToken (t : Token) (s : Scan) : (s.consToken t).parts = t.parts ++ s.parts := by
  simp [parts, consToken]

theorem parts_ofPieces (offset : Nat) (leading : List Trivia) (ps : List Piece) :
    (ofPieces offset leading ps).parts =
      leading.map Trivia.part ++ placedTexts offset (ps.map Piece.text) := by
  induction ps generalizing offset leading with
  | nil => simp [ofPieces, parts, placedTexts]
  | cons p rest ih =>
    cases p with
    | trivia kind text =>
      simp [ofPieces, ih, placedTexts, Piece.text, Trivia.placed, Trivia.part]
    | unknown ch =>
      simp [ofPieces, ih, placedTexts, Piece.text, Trivia.placed, Trivia.part]
    | unterminated form text =>
      simp [ofPieces, ih, placedTexts, Piece.text, Trivia.placed, Trivia.part]
    | token kind text =>
      simp [ofPieces, ih, placedTexts, Piece.text, Token.parts]
    | words found =>
      simp [ofPieces, ih, placedTexts, Piece.text, Token.parts, WordMatch.token]

theorem tiles_parts_ofPieces {ps : List Piece} (hne : ∀ p ∈ ps, p.text ≠ [])
    (before after : List Char) :
    Tiles (before ++ ps.flatMap Piece.text ++ after) (byteLength before)
      (byteLength before + byteLength (ps.flatMap Piece.text))
      (ofPieces (byteLength before) [] ps).parts := by
  rw [parts_ofPieces, List.map_nil, List.nil_append]
  exact tiles_placedTexts hne before after

end Scan

theorem part_placeFiller (offset : Nat) (filler : List Filler) :
    (placeFiller offset filler).map Trivia.part = placedTexts offset (filler.map Filler.text) := by
  induction filler generalizing offset with
  | nil => rfl
  | cons f rest ih => simp [placeFiller, placedTexts, ih, Trivia.part, Trivia.placed]

theorem join_placeFiller (offset : Nat) (filler : List Filler) :
    String.join ((placeFiller offset filler).map Trivia.text) =
      String.ofList (filler.flatMap Filler.text) := by
  have hjoin := join_placedTexts offset (filler.map Filler.text)
  rw [← part_placeFiller, List.map_map, ← List.flatMap_def] at hjoin
  exact hjoin

private theorem tiles_placeFiller {filler : List Filler} (hne : ∀ f ∈ filler, f.text ≠ [])
    (before after : List Char) :
    Tiles (before ++ filler.flatMap Filler.text ++ after) (byteLength before)
      (byteLength before + byteLength (filler.flatMap Filler.text))
      ((placeFiller (byteLength before) filler).map Trivia.part) := by
  rw [part_placeFiller]
  exact tiles_placedTexts hne before after

theorem LaterWord.byteLength_text (w : LaterWord) :
    byteLength w.text = byteLength (w.filler.flatMap Filler.text) + byteLength w.word := by
  rw [text, byteLength_append]

theorem liesInside_innerComments {later : List LaterWord} (hlater : ∀ w ∈ later, w.Proper)
    (before after : List Char) {start : Nat} (hstart : start < byteLength before) :
    LiesInside (before ++ later.flatMap LaterWord.text ++ after)
      ⟨start, byteLength before + byteLength (later.flatMap LaterWord.text)⟩
      (innerComments (byteLength before) later) := by
  induction later generalizing before start with
  | nil => exact LiesInside.nil _ _
  | cons w rest ih =>
    obtain ⟨hw, hrest⟩ := List.forall_mem_cons.1 hlater
    have hword : 0 < byteLength w.word := byteLength_pos hw.word_ne_nil
    have hlength := w.byteLength_text
    have hsource : before ++ w.filler.flatMap Filler.text ++
          (w.word ++ rest.flatMap LaterWord.text ++ after) =
        before ++ (w :: rest).flatMap LaterWord.text ++ after := by
      simp [LaterWord.text]
    have hfront := tiles_placeFiller hw.filler_ne_nil before
      (w.word ++ rest.flatMap LaterWord.text ++ after)
    have hmiddle : byteLength before + byteLength (w.filler.flatMap Filler.text) <
        byteLength (before ++ w.text) := by
      rw [byteLength_append]
      omega
    have hback := ih hrest (before ++ w.text) hmiddle
    rw [hsource] at hfront
    rw [List.append_assoc before, ← List.flatMap_cons, byteLength_append before w.text, Nat.add_assoc,
      ← byteLength_append w.text, ← List.flatMap_cons] at hback
    -- the word behind the filler is not empty, so its first byte keeps the two ranges apart
    refine (LiesInside.filter_of_tiles _ hfront hstart (Nat.lt_succ_self _)).append hback ?_ ?_
    · omega
    · rw [List.flatMap_cons, byteLength_append]
      omega

theorem liesInside_inner_token {m : WordMatch} (hm : m.Proper) (before after : List Char)
    (leading : List Trivia) :
    LiesInside (before ++ m.text ++ after) (m.token (byteLength before) leading).span
      (m.token (byteLength before) leading).inner := by
  have hfirst := byteLength_pos hm.first_ne_nil
  have hstart : byteLength before < byteLength (before ++ m.first) := by
    rw [byteLength_append]
    omega
  have h := liesInside_innerComments hm.proper_of_mem_later (before ++ m.first) after hstart
  rw [List.append_assoc before, byteLength_append, Nat.add_assoc, ← byteLength_append] at h
  exact h

theorem isComment_of_mem_innerComments {offset : Nat} {later : List LaterWord} {u : Trivia}
    (hu : u ∈ innerComments offset later) : u.isComment = true := by
  induction later generalizing offset with
  | nil => exact absurd hu List.not_mem_nil
  | cons w rest ih =>
    rcases List.mem_append.1 hu with hu | hu
    · exact (List.mem_filter.1 hu).2
    · exact ih hu

namespace Scan

theorem exists_of_mem_ofPieces {ps : List Piece} {offset : Nat} {leading : List Trivia} {t : Token}
    (ht : t ∈ (ofPieces offset leading ps).tokens) :
    ∃ start taken,
      (∃ kind text, .token kind text ∈ ps ∧ t = ⟨kind, String.ofList text, spanFrom start text, taken, [], none⟩) ∨
        ∃ m, .words m ∈ ps ∧ t = m.token start taken := by
  induction ps generalizing offset leading with
  | nil => exact absurd ht List.not_mem_nil
  | cons p rest ih =>
    have hrest : ∀ {next : Nat} {taken : List Trivia}, t ∈ (ofPieces next taken rest).tokens →
        ∃ start taken,
          (∃ kind text, .token kind text ∈ p :: rest ∧
              t = ⟨kind, String.ofList text, spanFrom start text, taken, [], none⟩) ∨
            ∃ m, .words m ∈ p :: rest ∧ t = m.token start taken := by
      intro next taken hmem
      obtain ⟨start, taken, ⟨kind, text, hpiece, rfl⟩ | ⟨m, hm, rfl⟩⟩ := ih hmem
      · exact ⟨start, taken, Or.inl ⟨kind, text, List.mem_cons_of_mem p hpiece, rfl⟩⟩
      · exact ⟨start, taken, Or.inr ⟨m, List.mem_cons_of_mem p hm, rfl⟩⟩
    cases p with
    | trivia kind text => exact hrest ht
    | unknown ch => exact hrest ht
    | unterminated form text => exact hrest ht
    | token kind text =>
      rcases List.mem_cons.1 ht with rfl | ht
      · exact ⟨offset, leading, Or.inl ⟨kind, text, List.mem_cons_self, rfl⟩⟩
      · exact hrest ht
    | words m =>
      rcases List.mem_cons.1 ht with rfl | ht
      · exact ⟨offset, leading, Or.inr ⟨m, List.mem_cons_self, rfl⟩⟩
      · exact hrest ht

/-- Nothing but comments stands between the words of a token. -/
theorem isComment_of_mem_inner {ps : List Piece} {offset : Nat} {leading : List Trivia} {t : Token}
    (ht : t ∈ (ofPieces offset leading ps).tokens) {u : Trivia} (hu : u ∈ t.inner) : u.isComment = true := by
  obtain ⟨start, taken, ⟨kind, text, -, rfl⟩ | ⟨m, -, rfl⟩⟩ := exists_of_mem_ofPieces ht
  · exact absurd hu List.not_mem_nil
  · exact isComment_of_mem_innerComments hu

theorem liesInside_inner_of_mem_ofPieces {ps : List Piece}
    (hproper : ∀ m, .words m ∈ ps → m.Proper) (before after : List Char) {leading : List Trivia}
    {t : Token} (ht : t ∈ (ofPieces (byteLength before) leading ps).tokens) :
    LiesInside (before ++ ps.flatMap Piece.text ++ after) t.span t.inner := by
  induction ps generalizing before leading with
  | nil => simp [ofPieces] at ht
  | cons p rest ih =>
    have hrest : ∀ m, .words m ∈ rest → m.Proper :=
      fun m hm => hproper m (List.mem_cons_of_mem p hm)
    have hnext : ∀ taken, t ∈ (ofPieces (byteLength before + byteLength p.text) taken rest).tokens →
        LiesInside (before ++ (p :: rest).flatMap Piece.text ++ after) t.span t.inner := by
      intro taken hmem
      rw [← byteLength_append] at hmem
      have h := ih hrest (before ++ p.text) hmem
      rwa [List.append_assoc before, ← List.flatMap_cons] at h
    cases p with
    | trivia kind text => exact hnext _ ht
    | unknown ch => exact hnext _ ht
    | unterminated form text => exact hnext _ ht
    | token kind text =>
      rcases List.mem_cons.1 ht with rfl | ht
      · exact LiesInside.nil _ _
      · exact hnext _ ht
    | words found =>
      rcases List.mem_cons.1 ht with rfl | ht
      · have h := liesInside_inner_token (hproper found List.mem_cons_self) before
          (rest.flatMap Piece.text ++ after) leading
        rw [List.flatMap_cons, ← List.append_assoc before, List.append_assoc (before ++ _)]
        exact h
      · exact hnext _ ht

theorem source_eq_join_parts (s : Scan) : s.source = String.join (s.parts.map Part.text) := by
  have htokens : String.join (s.tokens.map Token.source) =
      String.join ((s.tokens.flatMap Token.parts).map Part.text) := by
    induction s.tokens with
    | nil => rfl
    | cons t rest ih =>
      rw [List.map_cons, String.join_cons, ih, List.flatMap_cons, List.map_append, String.join_append]
      simp [Token.source, Token.parts, Trivia.part, Function.comp_def]
  rw [source, htokens, parts, List.map_append, String.join_append, List.map_map]
  rfl

end Scan

theorem scan_eq_ofPieces (v : Vocabulary) (source : List Char) :
    scan v source = Scan.ofPieces 0 [] (pieces v source) :=
  rfl

theorem source_scan (v : Vocabulary) (source : List Char) :
    (scan v source).source = String.ofList source := by
  rw [Scan.source_eq_join_parts, scan_eq_ofPieces, Scan.parts_ofPieces, List.map_nil, List.nil_append,
    join_placedTexts, ← List.flatMap_def, flatMap_text_pieces]

theorem tiles_parts_scan (v : Vocabulary) (source : List Char) :
    Tiles source 0 (String.ofList source).utf8ByteSize (scan v source).parts := by
  have hne : ∀ p ∈ pieces v source, p.text ≠ [] := fun p hp => text_ne_nil_of_mem_pieces hp
  have htiles := Scan.tiles_parts_ofPieces hne [] []
  rw [flatMap_text_pieces, List.nil_append, List.append_nil] at htiles
  rw [utf8ByteSize_ofList, scan_eq_ofPieces]
  simpa only [byteLength, Nat.zero_add] using htiles

/-- The parts of a scan tile its source, and the comments inside a keyword lie inside it in order. -/
theorem scan_tiles_source (v : Vocabulary) (source : List Char) :
    Tiles source 0 (String.ofList source).utf8ByteSize (scan v source).parts ∧
      (∀ t ∈ (scan v source).tokens, LiesInside source t.span t.inner) ∧
      (scan v source).source = String.ofList source := by
  refine ⟨tiles_parts_scan v source, ?_, source_scan v source⟩
  intro t ht
  have hinside := Scan.liesInside_inner_of_mem_ofPieces
    (fun m hm => proper_of_words_mem_pieces hm) [] [] ht
  rwa [flatMap_text_pieces, List.nil_append, List.append_nil] at hinside

end LoadScript
