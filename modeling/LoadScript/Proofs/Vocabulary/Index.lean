import Mathlib.Data.List.TakeWhile
import Mathlib.Order.Bounds.Basic
import LoadScript.Proofs.Scan.Grammar
import LoadScript.Proofs.Vocabulary.Entries

set_option autoImplicit false
set_option relaxedAutoImplicit false

namespace LoadScript

open Unicode

/-- Holds of a table of which every row is spelled with whole words, a word operator with one, and no two rows are
spelled the same up to case. -/
structure KeywordTable.Acceptable (table : KeywordTable) : Prop where
  words_ne_nil : ∀ k ∈ table.keywords, k.words ≠ []
  isWord_of_mem : ∀ k ∈ table.keywords, ∀ w ∈ k.words, IsWord w
  length_eq_of_logical : ∀ k ∈ table.keywords, k.tier = .logical → k.words.length = 1
  pairwise_not_spells : table.keywords.Pairwise fun a b => ¬a.Spells b.words

/-- Holds of a vocabulary that answers for a table: its rows are found by their words, each of them by no other row's
words, words that a longer row starts with are openings, and the longest row is the limit. -/
structure Vocabulary.AnswersFor (v : Vocabulary) (table : KeywordTable) : Prop where
  table_eq : v.table = table
  isGreatest_maxWords : IsGreatest {n | n = 1 ∨ ∃ k ∈ table.keywords, k.words.length = n} v.maxWords
  find?_eq_some_iff : ∀ words : List (List Char), (∀ w ∈ words, ' ' ∉ w) → ∀ entry, v.find? words = some entry ↔
    ∃ k ∈ table.keywords, k.Spells words ∧ entry = ⟨k.key, k.canonical, k⟩
  eq_of_spells : ∀ words, ∀ j ∈ table.keywords, ∀ k ∈ table.keywords, j.Spells words → k.Spells words → j = k
  isOpening_iff : ∀ words : List (List Char), words ≠ [] → (∀ w ∈ words, ' ' ∉ w) → (v.isOpening words = true ↔
    ∃ k ∈ table.keywords, words.length < k.words.length ∧
      (k.words.take words.length).map lowercase = words.map lowercase)

theorem isWholeWord_iff (word : List Char) : isWholeWord word = true ↔ IsWord word := by
  constructor
  · intro h
    have hfront := frontWord_of_isWholeWord h
    have hne : word ≠ [] := by
      simp only [isWholeWord, Bool.and_eq_true, Bool.not_eq_true', List.isEmpty_eq_false_iff] at h
      exact h.1
    rw [← hfront] at hne
    have hword := (longestFront_frontWord hne).holds
    rwa [hfront] at hword
  · rintro ⟨first, more, rfl, hfirst, hmore⟩
    have hafter : afterWord (first :: more) = [] := by
      rw [afterWord, if_pos hfirst, List.dropWhile_eq_nil_iff]
      exact hmore
    simp [isWholeWord, hafter]

theorem Keyword.WellSpelled.key_eq_iff {a b : Keyword} (ha : a.WellSpelled) (hb : b.WellSpelled) :
    a.key = b.key ↔ a.Spells b.words := by
  constructor
  · exact map_lowercase_of_lookupKey ha.words_ne_nil hb.words_ne_nil
      (fun w hw => space_not_mem_of_isWholeWord (ha.isWholeWord_of_mem w hw))
      (fun w hw => space_not_mem_of_isWholeWord (hb.isWholeWord_of_mem w hw))
  · exact Keyword.Spells.key_eq

theorem KeywordTable.acceptable_iff (table : KeywordTable) : table.Acceptable ↔ table.fault? = none := by
  rw [fault?_eq_none_iff]
  constructor
  · intro h
    have hspelled : ∀ k ∈ table.keywords, k.WellSpelled := fun k hk =>
      ⟨h.words_ne_nil k hk, fun w hw => (isWholeWord_iff w).2 (h.isWord_of_mem k hk w hw),
        fun htier => Nat.le_of_eq (h.length_eq_of_logical k hk htier)⟩
    refine ⟨hspelled, h.pairwise_not_spells.imp_of_mem fun ha hb hapart hkey => ?_⟩
    exact hapart (((hspelled _ ha).key_eq_iff (hspelled _ hb)).1 hkey)
  · rintro ⟨hspelled, hpairwise⟩
    refine ⟨fun k hk => (hspelled k hk).words_ne_nil,
      fun k hk w hw => (isWholeWord_iff w).1 ((hspelled k hk).isWholeWord_of_mem w hw), ?_, ?_⟩
    · intro k hk htier
      have hpos := List.length_pos_iff.2 (hspelled k hk).words_ne_nil
      exact Nat.le_antisymm ((hspelled k hk).length_le_of_logical htier) hpos
    · exact hpairwise.imp fun hkey hspells => hkey hspells.key_eq

namespace Vocabulary

variable {table : KeywordTable} {v : Vocabulary} {words : List (List Char)}

theorem isGreatest_maxWords (table : KeywordTable) :
    IsGreatest {n | n = 1 ∨ ∃ k ∈ table.keywords, k.words.length = n} (ofTable table).maxWords := by
  have hmax := foldl_max_mem_and_le (table.keywords.map fun k => k.words.length) 1
  simp only [List.mem_cons, List.mem_map] at hmax
  exact hmax

theorem mem_openings_iff {key : String} : key ∈ (ofTable table).openings ↔
    ∃ k ∈ table.keywords, ∃ n, 0 < n ∧ n < k.words.length ∧ lookupKey (k.words.take n) = key := by
  simp only [ofTable, List.mem_flatMap, properOpenings, List.map_map, List.mem_map, List.mem_range, Function.comp_apply]
  refine exists_congr fun k => and_congr_right fun _ => ?_
  constructor
  · rintro ⟨n, hn, rfl⟩
    exact ⟨n + 1, Nat.succ_pos n, by omega, rfl⟩
  · rintro ⟨n, hpos, hlt, rfl⟩
    exact ⟨n - 1, by omega, by rw [Nat.sub_add_cancel hpos]⟩

theorem isOpening_iff (haccept : accept table = .ok v) (hwords : words ≠ []) (hspace : ∀ w ∈ words, ' ' ∉ w) :
    v.isOpening words = true ↔ ∃ k ∈ table.keywords, words.length < k.words.length ∧
      (k.words.take words.length).map lowercase = words.map lowercase := by
  obtain ⟨rfl, hspelled⟩ := accept_eq_ok haccept
  rw [isOpening, List.contains_iff_mem, mem_openings_iff]
  refine exists_congr fun k => and_congr_right fun hk => ?_
  constructor
  · rintro ⟨n, hpos, hlt, hkey⟩
    have htake : k.words.take n ≠ [] := by
      rw [ne_eq, List.take_eq_nil_iff, not_or]
      exact ⟨Nat.pos_iff_ne_zero.1 hpos, (hspelled k hk).words_ne_nil⟩
    have hfront : ∀ w ∈ k.words.take n, ' ' ∉ w := fun w hw =>
      space_not_mem_of_isWholeWord ((hspelled k hk).isWholeWord_of_mem w (List.mem_of_mem_take hw))
    have hlower := map_lowercase_of_lookupKey htake hwords hfront hspace hkey
    have hlength := congrArg List.length hlower
    rw [List.length_map, List.length_map, List.length_take, Nat.min_eq_left (Nat.le_of_lt hlt)] at hlength
    rw [← hlength]
    exact ⟨hlt, hlength ▸ hlower⟩
  · rintro ⟨hlt, hlower⟩
    refine ⟨words.length, List.length_pos_iff.2 hwords, hlt, ?_⟩
    rw [lookupKey, hlower, lookupKey]

theorem answersFor_of_accept (haccept : accept table = .ok v) : v.AnswersFor table where
  table_eq := by
    obtain ⟨rfl, -⟩ := accept_eq_ok haccept
    rfl
  isGreatest_maxWords := by
    obtain ⟨rfl, -⟩ := accept_eq_ok haccept
    exact isGreatest_maxWords table
  find?_eq_some_iff := by
    intro words hspace entry
    constructor
    · exact spells_of_find? haccept hspace
    · rintro ⟨k, hk, hspells, rfl⟩
      exact find?_of_spells haccept hk hspells
  eq_of_spells := fun _ _ hj _ hk => spells_unique haccept hj hk
  isOpening_iff := fun _ => isOpening_iff haccept

end Vocabulary

/-- The acceptable tables are the accepted ones, and the vocabulary of an accepted table answers for it. -/
theorem accept_answers (table : KeywordTable) :
    ((∃ v, Vocabulary.accept table = .ok v) ↔ table.Acceptable) ∧
      ∀ v, Vocabulary.accept table = .ok v → v.AnswersFor table := by
  refine ⟨?_, fun v haccept => Vocabulary.answersFor_of_accept haccept⟩
  rw [KeywordTable.acceptable_iff]
  simp only [Vocabulary.accept_eq_ok_iff, exists_eq_left]

/-- A word that is a keyword by itself and one that only opens a keyword, in another case than the table has them. -/
theorem left_join_table_answers :
    let left : Keyword := ⟨"left", .script, .clause, true⟩
    let leftJoin : Keyword := ⟨"left\tJoin", .script, .leader, false⟩
    let table : KeywordTable := ⟨"1", [left, leftJoin, ⟨"and", .logical, .clause, false⟩]⟩
    let v := Vocabulary.ofTable table
    Vocabulary.accept table = .ok v ∧ table.Acceptable ∧ v.AnswersFor table ∧
      v.find? ["LEFT".toList, "join".toList] = some ⟨"left join", "LEFT JOIN", leftJoin⟩ ∧
      v.isOpening ["Left".toList] = true ∧ ¬v.isOpening ["and".toList] = true := by
  intro left leftJoin table v
  have haccept : Vocabulary.accept table = .ok v := Vocabulary.accept_of_fault? (by decide +kernel)
  obtain ⟨hacceptable, hall⟩ := accept_answers table
  have hanswers := hall v haccept
  have hkey : leftJoin.key = "left join" := by decide +kernel
  have hcanonical : leftJoin.canonical = "LEFT JOIN" := by decide +kernel
  refine ⟨haccept, hacceptable.1 ⟨v, haccept⟩, hanswers, ?_, ?_, ?_⟩
  · refine (hanswers.find?_eq_some_iff _ (by decide) _).2 ⟨leftJoin, by simp [table], ?_, ?_⟩
    · decide +kernel
    · rw [hkey, hcanonical]
  · refine (hanswers.isOpening_iff _ (by decide) (by decide)).2 ⟨leftJoin, by simp [table], ?_, ?_⟩
    · decide +kernel
    · decide +kernel
  · refine mt (hanswers.isOpening_iff _ (by decide) (by decide)).1 ?_
    decide +kernel

end LoadScript
