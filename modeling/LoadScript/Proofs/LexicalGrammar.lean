import LoadScript.Proofs.KeywordIndependence
import LoadScript.Proofs.Scan.MaximalMunch

set_option autoImplicit false
set_option relaxedAutoImplicit false

namespace LoadScript

open Text

/-- Holds of a text that stands at a range of a source and has a shape in front of what follows it there. -/
def StandsIn (source : List Char) (span : Span) (text : String) (shape : List Char → List Char → Prop) : Prop :=
  ∃ before body after, source = before ++ body ++ after ∧ text = String.ofList body ∧
    span = spanFrom (byteLength before) body ∧ shape body after

def Trivia.FitsIn (source : List Char) (t : Trivia) : Prop :=
  StandsIn source t.span t.text t.kind.Shape

def Token.FitsIn (source : List Char) (t : Token) : Prop :=
  StandsIn source t.span t.text t.kind.Shape

theorem Trivia.placed_fitsIn {before text after : List Char} {kind : TriviaKind} (h : kind.Shape text after) :
    (Trivia.placed (byteLength before) kind text).FitsIn (before ++ text ++ after) :=
  ⟨before, text, after, rfl, rfl, rfl, h⟩

theorem fitsIn_placeFiller (text before : List Char) :
    ∀ t ∈ placeFiller (byteLength before) (gap text).1, t.FitsIn (before ++ text) := by
  fun_induction gap text generalizing before with
  | case1 => exact fun t ht => absurd ht List.not_mem_nil
  | case2 text f after hpiece ih =>
    have hrest := ih (before ++ f.text)
    rw [byteLength_append] at hrest
    rw [← append_of_gapPiece? hpiece, ← List.append_assoc]
    exact List.forall_mem_cons.2 ⟨Trivia.placed_fitsIn (shape_of_gapPiece? hpiece), hrest⟩

theorem fitsIn_innerComments {taken : List LaterWord} {text : List Char} (htaken : taken <+: laterWords text)
    (before : List Char) : ∀ t ∈ innerComments (byteLength before) taken, t.FitsIn (before ++ text) := by
  induction taken generalizing text before with
  | nil => exact fun t ht => absurd ht List.not_mem_nil
  | cons w rest ih =>
    obtain ⟨-, rfl, hrest⟩ := cons_isPrefix_laterWords htaken
    have hlater := ih hrest (before ++ (LaterWord.mk (gap text).1 (frontWord (gap text).2)).text)
    rw [List.append_assoc, LaterWord.text_append_afterWord, byteLength_append] at hlater
    intro t ht
    rcases List.mem_append.1 ht with ht | ht
    · exact fitsIn_placeFiller text before t (List.mem_filter.1 ht).1
    · exact hlater t ht

namespace Scan

structure WellFormed (source : List Char) (s : Scan) : Prop where
  tokens : ∀ t ∈ s.tokens, t.FitsIn source
  trivia : ∀ t ∈ s.trivia, t.FitsIn source

theorem wellFormed_consProblem {source : List Char} {s : Scan} (h : s.WellFormed source) (p : Problem) :
    (s.consProblem p).WellFormed source :=
  ⟨h.tokens, h.trivia⟩

theorem wellFormed_consToken {source : List Char} {s : Scan} (h : s.WellFormed source) {t : Token}
    (ht : t.FitsIn source) (hleading : ∀ u ∈ t.leading, u.FitsIn source) (hinner : ∀ u ∈ t.inner, u.FitsIn source) :
    (s.consToken t).WellFormed source where
  tokens := List.forall_mem_cons.2 ⟨ht, h.tokens⟩
  trivia := by
    have htrivia : (s.consToken t).trivia = t.leading ++ t.inner ++ s.trivia := by
      rw [Scan.trivia, consToken, List.flatMap_cons, List.append_assoc, Scan.trivia]
    rw [htrivia]
    simp only [List.forall_mem_append]
    exact ⟨⟨hleading, hinner⟩, h.trivia⟩

theorem wellFormed_ofPieces (v : Vocabulary) (text before : List Char) {leading : List Trivia}
    (hleading : ∀ t ∈ leading, t.FitsIn (before ++ text)) :
    (ofPieces (byteLength before) leading (pieces v text)).WellFormed (before ++ text) := by
  fun_induction pieces v text generalizing before leading with
  | case1 => exact ⟨fun t ht => absurd ht List.not_mem_nil, hleading⟩
  | case2 c rest ih =>
    have hshape := shape_frontPiece v c rest
    have htext := text_append_frontPiece v c rest
    have hwords : ∀ m, (frontPiece v c rest).1 = .words m → m = v.wordMatch (c :: rest) :=
      fun m hm => (frontPiece_eq_words hm).2.2
    -- from here on only the shape of the piece matters, not how it was read
    generalize (frontPiece v c rest).1 = p at *
    generalize (frontPiece v c rest).2 = after at *
    have hsource : before ++ p.text ++ after = before ++ c :: rest := by rw [List.append_assoc, htext]
    rw [← hsource] at hleading ⊢
    have hnext : ∀ taken : List Trivia, (∀ t ∈ taken, t.FitsIn (before ++ p.text ++ after)) →
        (ofPieces (byteLength before + byteLength p.text) taken (pieces v after)).WellFormed
          (before ++ p.text ++ after) := by
      intro taken htaken
      rw [← byteLength_append]
      exact ih (before ++ p.text) htaken
    have hplaced : ∀ kind, kind.Shape p.text after → ∀ t ∈ leading ++ [Trivia.placed (byteLength before) kind p.text],
        t.FitsIn (before ++ p.text ++ after) := by
      intro kind hkind
      exact List.forall_mem_append.2 ⟨hleading, List.forall_mem_singleton.2 (Trivia.placed_fitsIn hkind)⟩
    cases p with
    | trivia kind text => exact hnext _ (hplaced kind hshape)
    | unknown ch => exact wellFormed_consProblem (hnext _ (hplaced .skipped hshape)) _
    | unterminated form text => exact wellFormed_consProblem (hnext _ (hplaced .skipped hshape)) _
    | token kind text =>
      exact wellFormed_consToken (hnext [] (by simp)) ⟨before, text, after, rfl, rfl, rfl, hshape⟩ hleading (by simp)
    | words found =>
      refine wellFormed_consToken (hnext [] (by simp)) ⟨before, found.text, after, rfl, rfl, rfl, hshape⟩ hleading ?_
      obtain rfl := hwords found rfl
      have hinner := fitsIn_innerComments (v.later_wordMatch_isPrefix (c :: rest)) (before ++ frontWord (c :: rest))
      rwa [List.append_assoc, frontWord_append_afterWord, ← hsource, byteLength_append,
        ← v.first_wordMatch (c :: rest)] at hinner

end Scan

/-- Every token and every piece of trivia of a scan has the shape of its kind at its place in the source. -/
theorem scan_fits_grammar (v : Vocabulary) (source : List Char) :
    (∀ t ∈ (scan v source).tokens, t.FitsIn source) ∧ ∀ t ∈ (scan v source).trivia, t.FitsIn source := by
  have hleading : ∀ t ∈ ([] : List Trivia), t.FitsIn ([] ++ source) := by
    intro t ht
    exact absurd ht List.not_mem_nil
  obtain ⟨htokens, htrivia⟩ := Scan.wellFormed_ofPieces v source [] hleading
  exact ⟨htokens, htrivia⟩

example : (scan .empty "2.5e+x<=1//".toList).tokens.map Token.text = ["2.5", "e", "+", "x", "<=", "1"] := by
  decide +kernel

end LoadScript
