import LoadScript.Proofs.Scan.AcceptedWords

set_option autoImplicit false
set_option relaxedAutoImplicit false

namespace LoadScript

open Text Unicode

def remarkWord : List Char :=
  "rem".toList

theorem Text.isWhiteSpace_eq_false_of_mem_fields {text run : List Char} {c : Char}
    (hrun : run ∈ fields text) (hc : c ∈ run) : isWhiteSpace c = false := by
  induction text generalizing run with
  | nil => exact absurd hrun List.not_mem_nil
  | cons d rest ih =>
    rw [fields] at hrun
    split at hrun
    · exact ih hrun hc
    · next hspace =>
      have hd : isWhiteSpace d = false := Bool.eq_false_iff.2 hspace
      split at hrun
      · rcases List.mem_cons.1 hrun with rfl | hrun
        · rwa [List.mem_singleton.1 hc]
        · exact ih hrun hc
      · unfold consFirst at hrun
        split at hrun
        · obtain rfl := List.mem_singleton.1 hrun
          rwa [List.mem_singleton.1 hc]
        · next first more hfields =>
          rcases List.mem_cons.1 hrun with rfl | hrun
          · rcases List.mem_cons.1 hc with rfl | hc
            · exact hd
            · exact ih (hfields ▸ List.mem_cons_self) hc
          · exact ih (hfields ▸ List.mem_cons_of_mem first hrun) hc

theorem Keyword.space_not_mem_of_mem_words {k : Keyword} {w : List Char} (hw : w ∈ k.words) :
    ' ' ∉ w := by
  intro hspace
  have hwhite := isWhiteSpace_eq_false_of_mem_fields hw hspace
  exact absurd hwhite (by decide)

theorem exists_lowercase_eq_of_lookupKey {spelled words : List (List Char)} (hne : spelled ≠ [])
    (hspelled : ∀ w ∈ spelled, ' ' ∉ w) (hwords : ∀ w ∈ words, ' ' ∉ w)
    (hkey : lookupKey spelled = lookupKey words) {w : List Char} (hw : w ∈ words) :
    ∃ u ∈ spelled, lowercase u = lowercase w := by
  have hlower := map_lowercase_of_lookupKey hne (List.ne_nil_of_mem hw) hspelled hwords hkey
  have hmem : lowercase w ∈ spelled.map lowercase := by
    rw [hlower]
    exact List.mem_map_of_mem hw
  exact List.mem_map.1 hmem

theorem length_le_one_of_lookupKey_nil {words : List (List Char)} (hwords : ∀ w ∈ words, ' ' ∉ w)
    (hkey : lookupKey [] = lookupKey words) : words.length ≤ 1 := by
  have hjoin : joinWords (words.map lowercase) = [] := (String.ofList_injective hkey).symm
  by_cases hne : words = []
  · rw [hne]
    exact Nat.zero_le 1
  · have hlower : ∀ w ∈ words.map lowercase, ' ' ∉ w := by
      intro w hw
      obtain ⟨u, hu, rfl⟩ := List.mem_map.1 hw
      exact space_not_mem_lowercase (hwords u hu)
    have hsplit := List.splitOn_intercalate ' ' hlower (by simpa using hne)
    have hlength := congrArg List.length hsplit
    rw [List.length_map] at hlength
    rw [← hlength]
    exact Nat.le_of_eq (congrArg (fun text => (List.splitOn ' ' text).length) hjoin)

/-- Holds of a vocabulary that does not look behind the word that starts a remark, and does not take it into a
keyword. -/
structure Vocabulary.FreeOfRemarks (v : Vocabulary) : Prop where
  isOpening_append : ∀ seen w, (∀ u ∈ seen ++ [w], ' ' ∉ u) → lowercase w = remarkWord →
    v.isOpening (seen ++ [w]) = false
  later_wordMatch : ∀ text, ∀ w ∈ (v.wordMatch text).later, lowercase w.word ≠ remarkWord

theorem Vocabulary.freeOfRemarks_ofTable {table : KeywordTable}
    (hrem : ∀ k ∈ table.keywords, ∀ w ∈ k.words, lowercase w ≠ remarkWord) :
    (ofTable table).FreeOfRemarks where
  isOpening_append := by
    intro seen w hspace hw
    refine Bool.eq_false_iff.2 fun hopening => ?_
    rw [isOpening, List.contains_iff_mem] at hopening
    obtain ⟨k, hk, hmem⟩ := List.mem_flatMap.1 hopening
    obtain ⟨opening, hproper, hkey⟩ := List.mem_map.1 hmem
    obtain ⟨n, hn, rfl⟩ := List.mem_map.1 hproper
    have hn := List.mem_range.1 hn
    have hne : k.words.take (n + 1) ≠ [] := by
      rw [← List.length_pos_iff, List.length_take]
      omega
    -- the lookup text of the opening has the word, so the keyword of the opening has it
    have htake : ∀ u ∈ k.words.take (n + 1), u ∈ k.words := fun u hu => List.mem_of_mem_take hu
    obtain ⟨u, hu, hlower⟩ := exists_lowercase_eq_of_lookupKey hne
      (fun u hu => Keyword.space_not_mem_of_mem_words (htake u hu)) hspace hkey
      (List.mem_append_right seen List.mem_cons_self)
    exact hrem k hk u (htake u hu) (hlower.trans hw)
  later_wordMatch := by
    intro text w hw
    rcases (ofTable table).wordMatch_cases text with h | ⟨taken, entry, htaken, hfind, h⟩
    · rw [h] at hw
      exact absurd hw List.not_mem_nil
    · rw [h] at hw
      have hspace := space_not_mem_of_isPrefix htaken
      unfold find? at hfind
      split at hfind
      · exact absurd hfind.symm (Option.some_ne_none entry)
      · obtain ⟨k, hk, rfl⟩ := List.mem_map.1 (List.mem_of_find?_eq_some hfind)
        have hkey : k.key = lookupKey (frontWord text :: taken.map LaterWord.word) := by
          simpa using List.find?_some hfind
        have hne : k.words ≠ [] := by
          intro hnil
          rw [Keyword.key, hnil] at hkey
          have hlength := length_le_one_of_lookupKey_nil hspace hkey
          have hpos : 0 < taken.length := List.length_pos_of_mem hw
          rw [List.length_cons, List.length_map] at hlength
          omega
        obtain ⟨u, hu, hlower⟩ := exists_lowercase_eq_of_lookupKey hne
          (fun u hu => Keyword.space_not_mem_of_mem_words hu) hspace hkey
          (List.mem_cons_of_mem _ (List.mem_map_of_mem hw))
        rw [← hlower]
        exact hrem k hk u hu

end LoadScript
