import LoadScript.Scan.Placed

/-!
Slices of a source by byte ranges, and tilings of a source by slices. Ranges are read off the UTF-8 form of the
source, so a slice says that both ends of its range fall between two characters and which bytes lie between.
-/

set_option autoImplicit false
set_option relaxedAutoImplicit false

namespace LoadScript.Text

theorem utf8ByteSize_ofList (text : List Char) :
    (String.ofList text).utf8ByteSize = byteLength text := by
  induction text with
  | nil => rfl
  | cons c rest ih =>
    have hsplit : String.ofList (c :: rest) = String.singleton c ++ String.ofList rest := by
      rw [String.singleton_eq_ofList, ← String.ofList_append]
      rfl
    rw [hsplit, String.utf8ByteSize_append, String.utf8ByteSize_singleton, ih, byteLength]

theorem byteLength_pos {text : List Char} (h : text ≠ []) : 0 < byteLength text := by
  obtain ⟨c, rest, rfl⟩ := List.exists_cons_of_ne_nil h
  have hc := c.utf8Size_pos
  simp only [byteLength]
  omega

structure IsSlice (source : List Char) (s : Span) (text : String) : Prop where
  start_isValid : String.Pos.Raw.IsValid (String.ofList source) ⟨s.start⟩
  stop_isValid : String.Pos.Raw.IsValid (String.ofList source) ⟨s.stop⟩
  bytes_eq : (String.ofList source).toByteArray.extract s.start s.stop = text.toByteArray

private theorem isValid_byteLength_append (before after : List Char) :
    String.Pos.Raw.IsValid (String.ofList (before ++ after)) ⟨byteLength before⟩ := by
  rw [String.Pos.Raw.isValid_iff_exists_append]
  refine ⟨String.ofList before, String.ofList after, String.ofList_append, ?_⟩
  rw [String.Pos.Raw.ext_iff, String.byteIdx_rawEndPos, utf8ByteSize_ofList]

private theorem extract_middle (a b c : ByteArray) :
    (a ++ (b ++ c)).extract a.size (a.size + b.size) = b := by
  have h := ByteArray.extract_append_size_add (a := a) (b := b ++ c) (i := 0) (j := b.size)
  rw [Nat.add_zero] at h
  rw [h]
  exact ByteArray.extract_append_eq_left rfl

theorem isSlice_append (before text after : List Char) :
    IsSlice (before ++ text ++ after) (spanFrom (byteLength before) text) (String.ofList text) where
  start_isValid := by
    rw [List.append_assoc]
    exact isValid_byteLength_append before (text ++ after)
  stop_isValid := by
    have h := isValid_byteLength_append (before ++ text) after
    rwa [byteLength_append] at h
  bytes_eq := by
    have h := extract_middle (String.ofList before).toByteArray (String.ofList text).toByteArray
      (String.ofList after).toByteArray
    rw [String.size_toByteArray, String.size_toByteArray, utf8ByteSize_ofList,
      utf8ByteSize_ofList] at h
    rw [List.append_assoc, String.ofList_append, String.ofList_append, String.toByteArray_append,
      String.toByteArray_append]
    exact h

structure Part where
  text : String
  span : Span

/-- Holds of parts that follow each other without a gap from one offset to another; each of them is a slice of
the source, and none is empty. -/
inductive Tiles (source : List Char) : Nat → Nat → List Part → Prop
  | nil (offset : Nat) : Tiles source offset offset []
  | cons {p : Part} {stop : Nat} {rest : List Part} : p.span.start < p.span.stop →
      IsSlice source p.span p.text → Tiles source p.span.stop stop rest →
      Tiles source p.span.start stop (p :: rest)

namespace Tiles

variable {source : List Char} {start stop : Nat} {parts : List Part}

theorem start_le_stop (h : Tiles source start stop parts) : start ≤ stop := by
  induction h with
  | nil offset => exact Nat.le_refl offset
  | cons hlt _ _ ih => exact Nat.le_trans (Nat.le_of_lt hlt) ih

theorem isSlice {p : Part} (h : Tiles source start stop parts) (hp : p ∈ parts) :
    IsSlice source p.span p.text := by
  induction h with
  | nil => simp at hp
  | cons _ hslice _ ih =>
    rcases List.mem_cons.1 hp with rfl | hp
    · exact hslice
    · exact ih hp

theorem within {p : Part} (h : Tiles source start stop parts) (hp : p ∈ parts) :
    start ≤ p.span.start ∧ p.span.start < p.span.stop ∧ p.span.stop ≤ stop := by
  induction h with
  | nil => simp at hp
  | cons hlt _ hrest ih =>
    rcases List.mem_cons.1 hp with rfl | hp
    · exact ⟨Nat.le_refl _, hlt, hrest.start_le_stop⟩
    · obtain ⟨hstart, hne, hstop⟩ := ih hp
      exact ⟨Nat.le_trans (Nat.le_of_lt hlt) hstart, hne, hstop⟩

theorem ordered (h : Tiles source start stop parts) :
    parts.Pairwise fun a b => a.span.stop ≤ b.span.start := by
  induction h with
  | nil => exact List.Pairwise.nil
  | cons _ _ hrest ih => exact List.Pairwise.cons (fun b hb => (hrest.within hb).1) ih

end Tiles

def placedTexts (offset : Nat) : List (List Char) → List Part
  | [] => []
  | text :: rest =>
    ⟨String.ofList text, spanFrom offset text⟩ :: placedTexts (offset + byteLength text) rest

theorem tiles_placedTexts {α : Type} {f : α → List Char} {xs : List α} (hne : ∀ x ∈ xs, f x ≠ [])
    (before after : List Char) :
    Tiles (before ++ xs.flatMap f ++ after) (byteLength before)
      (byteLength before + byteLength (xs.flatMap f))
      (placedTexts (byteLength before) (xs.map f)) := by
  induction xs generalizing before with
  | nil => exact Tiles.nil _
  | cons x rest ih =>
    have hlt : byteLength before < byteLength before + byteLength (f x) :=
      Nat.lt_add_of_pos_right (byteLength_pos (hne x List.mem_cons_self))
    have hslice := isSlice_append before (f x) (rest.flatMap f ++ after)
    have htiles := ih (fun y hy => hne y (List.mem_cons_of_mem x hy)) (before ++ f x)
    rw [byteLength_append] at htiles
    rw [List.flatMap_cons, byteLength_append, ← Nat.add_assoc]
    simp only [List.append_assoc] at hslice htiles ⊢
    exact Tiles.cons (p := ⟨String.ofList (f x), spanFrom (byteLength before) (f x)⟩) hlt hslice htiles

theorem join_placedTexts (offset : Nat) (texts : List (List Char)) :
    String.join ((placedTexts offset texts).map Part.text) = String.ofList texts.flatten := by
  induction texts generalizing offset with
  | nil => rfl
  | cons text rest ih =>
    rw [placedTexts, List.map_cons, String.join_cons, ih, List.flatten_cons, String.ofList_append]

end LoadScript.Text
