import LoadScript.Proofs.Unicode.Characters
import LoadScript.Vocabulary

set_option autoImplicit false
set_option relaxedAutoImplicit false

namespace LoadScript

open Text Unicode

theorem isWordPart_of_mem_frontWord {text : List Char} {c : Char} (h : c ∈ frontWord text) :
    isWordPart c = true := by
  cases text with
  | nil => exact absurd h List.not_mem_nil
  | cons d rest =>
    rw [frontWord] at h
    split at h
    · next hstart =>
      rcases List.mem_cons.1 h with rfl | h
      · exact isWordPart_of_isWordStart hstart
      · exact List.all_eq_true.1 List.all_takeWhile c h
    · exact absurd h List.not_mem_nil

theorem space_not_mem_frontWord (text : List Char) : ' ' ∉ frontWord text := by
  intro h
  have hpart := isWordPart_of_mem_frontWord h
  rw [isWordPart_eq_false_of_isWhiteSpace (by decide)] at hpart
  exact Bool.false_ne_true hpart

theorem frontWord_of_isWholeWord {word : List Char} (h : isWholeWord word = true) :
    frontWord word = word := by
  have hafter : afterWord word = [] := by
    simp only [isWholeWord, Bool.and_eq_true, List.isEmpty_iff] at h
    exact h.2
  have hword := frontWord_append_afterWord word
  rwa [hafter, List.append_nil] at hword

theorem space_not_mem_of_isWholeWord {word : List Char} (h : isWholeWord word = true) :
    ' ' ∉ word := by
  rw [← frontWord_of_isWholeWord h]
  exact space_not_mem_frontWord word

/-- Holds of a keyword that a table may list: its spelling has a word, all its words are whole, and it is a
single word if it is an operator. -/
structure Keyword.WellSpelled (k : Keyword) : Prop where
  words_ne_nil : k.words ≠ []
  isWholeWord_of_mem : ∀ w ∈ k.words, isWholeWord w = true
  length_le_of_logical : k.tier = .logical → k.words.length ≤ 1

theorem Keyword.fault?_eq_none_iff {seen : List String} {k : Keyword} :
    k.fault? seen = none ↔ k.WellSpelled ∧ k.key ∉ seen := by
  constructor
  · intro h
    unfold fault? at h
    split at h
    · exact absurd h (Option.some_ne_none _)
    · next hwords =>
      split at h
      · exact absurd h (Option.some_ne_none _)
      · next hwhole =>
        split at h
        · exact absurd h (Option.some_ne_none _)
        · next hlogical =>
          split at h
          · exact absurd h (Option.some_ne_none _)
          · next hkey =>
            refine ⟨⟨by simpa using hwords, ?_, ?_⟩, hkey⟩
            · intro w hw
              simpa using List.find?_eq_none.1 hwhole w hw
            · intro htier
              exact Nat.le_of_not_lt fun hlt => hlogical ⟨htier, hlt⟩
  · rintro ⟨⟨hwords, hwhole, hlogical⟩, hkey⟩
    have hfind : k.words.find? (fun word => !isWholeWord word) = none := by
      refine List.find?_eq_none.2 fun w hw => ?_
      rw [hwhole w hw]
      exact Bool.false_ne_true
    have hmany : ¬(k.tier = .logical ∧ 1 < k.words.length) :=
      fun h => Nat.not_lt_of_le (hlogical h.1) h.2
    rw [fault?, if_neg (by simpa using hwords), hfind]
    simp only [if_neg hmany, if_neg hkey]

theorem firstFault?_cons_eq_none_iff {seen : List String} {k : Keyword} {rest : List Keyword} :
    firstFault? seen (k :: rest) = none ↔ k.fault? seen = none ∧ firstFault? (k.key :: seen) rest = none := by
  rw [firstFault?]
  cases k.fault? seen <;> simp

theorem firstFault?_eq_none_iff {seen : List String} {keywords : List Keyword} :
    firstFault? seen keywords = none ↔
      (∀ k ∈ keywords, k.WellSpelled ∧ k.key ∉ seen) ∧ keywords.Pairwise fun a b => a.key ≠ b.key := by
  induction keywords generalizing seen with
  | nil => simp [firstFault?]
  | cons k rest ih =>
    rw [firstFault?_cons_eq_none_iff, Keyword.fault?_eq_none_iff, ih, List.forall_mem_cons, List.pairwise_cons]
    simp only [List.mem_cons, not_or]
    constructor
    · rintro ⟨hk, hrest, hpairwise⟩
      refine ⟨⟨hk, fun j hj => ⟨(hrest j hj).1, (hrest j hj).2.2⟩⟩, fun j hj => ?_, hpairwise⟩
      exact Ne.symm (hrest j hj).2.1
    · rintro ⟨⟨hk, hrest⟩, hne, hpairwise⟩
      exact ⟨hk, fun j hj => ⟨(hrest j hj).1, Ne.symm (hne j hj), (hrest j hj).2⟩, hpairwise⟩

theorem KeywordTable.fault?_eq_none_iff {table : KeywordTable} :
    table.fault? = none ↔ (∀ k ∈ table.keywords, k.WellSpelled) ∧
      table.keywords.Pairwise fun a b => a.key ≠ b.key := by
  simp only [fault?, firstFault?_eq_none_iff, List.not_mem_nil, not_false_iff, and_true]

theorem joinWords_injective {a b : List (List Char)} (ha : a ≠ []) (hb : b ≠ [])
    (hsa : ∀ w ∈ a, ' ' ∉ w) (hsb : ∀ w ∈ b, ' ' ∉ w) (h : joinWords a = joinWords b) : a = b := by
  rw [← List.splitOn_intercalate ' ' hsa ha, ← List.splitOn_intercalate ' ' hsb hb]
  exact congrArg (List.splitOn ' ') h

theorem map_lowercase_of_lookupKey {a b : List (List Char)} (ha : a ≠ []) (hb : b ≠ [])
    (hsa : ∀ w ∈ a, ' ' ∉ w) (hsb : ∀ w ∈ b, ' ' ∉ w) (h : lookupKey a = lookupKey b) :
    a.map lowercase = b.map lowercase := by
  have hlower : ∀ ws : List (List Char), (∀ w ∈ ws, ' ' ∉ w) → ∀ w ∈ ws.map lowercase, ' ' ∉ w := by
    intro ws hws w hw
    obtain ⟨u, hu, rfl⟩ := List.mem_map.1 hw
    exact space_not_mem_lowercase (hws u hu)
  refine joinWords_injective ?_ ?_ (hlower a hsa) (hlower b hsb) (String.ofList_injective h)
  · simpa using ha
  · simpa using hb

namespace Vocabulary

theorem accept_of_fault? {table : KeywordTable} (h : table.fault? = none) : accept table = .ok (ofTable table) := by
  rw [accept, h]

theorem accept_eq_ok_iff {table : KeywordTable} {v : Vocabulary} :
    accept table = .ok v ↔ v = ofTable table ∧ table.fault? = none := by
  rw [accept]
  cases table.fault? with
  | none => simp [eq_comm]
  | some fault => simp

theorem accept_eq_ok {table : KeywordTable} {v : Vocabulary} (h : accept table = .ok v) :
    v = ofTable table ∧ ∀ k ∈ table.keywords, k.WellSpelled := by
  obtain ⟨rfl, hfault⟩ := accept_eq_ok_iff.1 h
  exact ⟨rfl, (KeywordTable.fault?_eq_none_iff.1 hfault).1⟩

theorem find?_eq_some {table : KeywordTable} {v : Vocabulary} (haccept : accept table = .ok v)
    {words : List (List Char)} (hspace : ∀ w ∈ words, ' ' ∉ w) {entry : IndexEntry}
    (h : v.find? words = some entry) :
    ∃ k ∈ table.keywords, k.WellSpelled ∧ entry = ⟨k.key, k.canonical, k⟩ ∧
      k.words.map lowercase = words.map lowercase := by
  obtain ⟨rfl, hspelled⟩ := accept_eq_ok haccept
  unfold find? at h
  split at h
  · exact absurd h.symm (Option.some_ne_none entry)
  · next hwords =>
    obtain ⟨k, hk, rfl⟩ := List.mem_map.1 (List.mem_of_find?_eq_some h)
    have hkey : k.key = lookupKey words := by simpa using List.find?_some h
    have hk' := hspelled k hk
    refine ⟨k, hk, hk', rfl, ?_⟩
    refine map_lowercase_of_lookupKey hk'.words_ne_nil ?_ ?_ hspace hkey
    · intro hnil
      exact hwords (Or.inl (by simp [hnil]))
    · exact fun w hw => space_not_mem_of_isWholeWord (hk'.isWholeWord_of_mem w hw)

end Vocabulary

end LoadScript
