import LoadScript.Proofs.Scan.LaterWords
import LoadScript.Proofs.Vocabulary.Lookup

set_option autoImplicit false
set_option relaxedAutoImplicit false

namespace LoadScript

open Text Unicode

theorem kind_of_gapPiece? {text after : List Char} {f : Filler}
    (h : gapPiece? text = some (f, after)) : f.kind ∈ gapKinds := by
  cases text with
  | nil => exact absurd h.symm (Option.some_ne_none _)
  | cons c rest =>
    rcases gapPiece?_eq_some h with ⟨-, rfl, -⟩ | ⟨-, -, rfl, -⟩ | ⟨-, -, -, body, -, rfl⟩ <;>
      simp [gapKinds]

theorem kind_of_mem_gap {text : List Char} {f : Filler} (hf : f ∈ (gap text).1) :
    f.kind ∈ gapKinds := by
  obtain ⟨t, after, h⟩ := exists_of_mem_gap hf
  exact kind_of_gapPiece? h

theorem space_not_mem_of_isPrefix {taken : List LaterWord} {text : List Char}
    (h : taken <+: laterWords (afterWord text)) :
    ∀ w ∈ frontWord text :: taken.map LaterWord.word, ' ' ∉ w := by
  refine List.forall_mem_cons.2 ⟨space_not_mem_frontWord text, ?_⟩
  intro w hw
  obtain ⟨later, hlater, rfl⟩ := List.mem_map.1 hw
  obtain ⟨t, -, rfl⟩ := exists_of_mem_laterWords (h.subset hlater)
  exact space_not_mem_frontWord (gap t).2

namespace Vocabulary

variable {table : KeywordTable} {v : Vocabulary}

theorem wordMatch_of_accept (haccept : accept table = .ok v) (text : List Char) :
    v.wordMatch text = ⟨.identifier, none, frontWord text, []⟩ ∨
      ∃ k ∈ table.keywords, ∃ taken, k.WellSpelled ∧ taken <+: laterWords (afterWord text) ∧
        k.words.map lowercase = (frontWord text :: taken.map LaterWord.word).map lowercase ∧
        v.wordMatch text = ⟨k.tokenKind, some k.canonical, frontWord text, taken⟩ := by
  rcases v.wordMatch_cases text with hname | ⟨taken, entry, htaken, hfind, hmatch⟩
  · exact Or.inl hname
  · obtain ⟨k, hk, hspelled, rfl, hwords⟩ :=
      find?_eq_some haccept (space_not_mem_of_isPrefix htaken) hfind
    exact Or.inr ⟨k, hk, taken, hspelled, htaken, hwords, hmatch⟩

theorem isKeyword_wordMatch (haccept : accept table = .ok v) {text : List Char}
    (hlater : (v.wordMatch text).later ≠ []) :
    ∃ tier role, (v.wordMatch text).kind = .keyword tier role := by
  rcases wordMatch_of_accept haccept text with h | ⟨k, -, taken, hspelled, -, hwords, h⟩
  · exact absurd (by rw [h]) hlater
  · rw [h] at hlater ⊢
    have htaken : 0 < taken.length := List.length_pos_iff.2 hlater
    have hlength := congrArg List.length hwords
    simp only [List.length_map, List.length_cons] at hlength
    have htier : k.tier ≠ .logical := by
      intro hlogical
      have hle := hspelled.length_le_of_logical hlogical
      omega
    cases hk : k.tier with
    | logical => exact absurd hk htier
    | control => exact ⟨.control, k.role, by simp [Keyword.tokenKind, hk]⟩
    | script => exact ⟨.script, k.role, by simp [Keyword.tokenKind, hk]⟩

/-- A word that no keyword goes on with is no later word of a token. -/
theorem lowercase_later_ne (haccept : accept table = .ok v) {word : List Char}
    (hword : ∀ k ∈ table.keywords, ∀ w ∈ k.words.tail, lowercase w ≠ word) {text : List Char} :
    ∀ w ∈ (v.wordMatch text).later, lowercase w.word ≠ word := by
  intro w hw
  rcases wordMatch_of_accept haccept text with h | ⟨k, hk, taken, -, -, hwords, h⟩
  · rw [h] at hw
    exact absurd hw List.not_mem_nil
  · rw [h] at hw
    have htail := congrArg List.tail hwords
    rw [List.map_cons, List.tail_cons, List.map_map, ← List.map_tail] at htail
    have hmem : lowercase w.word ∈ k.words.tail.map lowercase := by
      rw [htail]
      exact List.mem_map_of_mem (f := lowercase ∘ LaterWord.word) hw
    obtain ⟨u, hu, hlower⟩ := List.mem_map.1 hmem
    rw [← hlower]
    exact hword k hk u hu

end Vocabulary

end LoadScript
