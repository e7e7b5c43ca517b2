import LoadScript.Proofs.Vocabulary.Lookup

set_option autoImplicit false
set_option relaxedAutoImplicit false

namespace LoadScript

open Unicode

/-- Holds if some words spell a keyword, whatever their case. -/
def Keyword.Spells (k : Keyword) (words : List (List Char)) : Prop :=
  k.words.map lowercase = words.map lowercase

instance (k : Keyword) (words : List (List Char)) : Decidable (k.Spells words) :=
  inferInstanceAs (Decidable (_ = _))

namespace Keyword.Spells

variable {k : Keyword} {words : List (List Char)}

theorem length_eq (h : k.Spells words) : k.words.length = words.length := by
  have hlength : (k.words.map lowercase).length = (words.map lowercase).length := congrArg List.length h
  rwa [List.length_map, List.length_map] at hlength

theorem key_eq (h : k.Spells words) : k.key = lookupKey words :=
  congrArg (fun lower => String.ofList (joinWords lower)) h

theorem lookupKey_take_eq (h : k.Spells words) (n : Nat) :
    lookupKey (k.words.take n) = lookupKey (words.take n) := by
  have htake : (k.words.map lowercase).take n = (words.map lowercase).take n := congrArg (List.take n) h
  rw [← List.map_take, ← List.map_take] at htake
  rw [lookupKey, htake, lookupKey]

end Keyword.Spells

theorem foldl_max_mem_and_le (ns : List Nat) (start : Nat) :
    ns.foldl max start ∈ start :: ns ∧ ∀ n ∈ start :: ns, n ≤ ns.foldl max start :=
  List.max?_eq_some_iff.1 List.max?_cons'

namespace Vocabulary

variable {table : KeywordTable} {v : Vocabulary} {k : Keyword} {words : List (List Char)}

theorem length_le_maxWords (haccept : accept table = .ok v) (hk : k ∈ table.keywords) :
    k.words.length ≤ v.maxWords := by
  obtain ⟨rfl, -⟩ := accept_eq_ok haccept
  exact (foldl_max_mem_and_le _ 1).2 _ (List.mem_cons_of_mem 1 (List.mem_map_of_mem hk))

theorem find?_of_spells (haccept : accept table = .ok v) (hk : k ∈ table.keywords)
    (h : k.Spells words) : v.find? words = some ⟨k.key, k.canonical, k⟩ := by
  have hle := length_le_maxWords haccept hk
  have hlength := h.length_eq
  obtain ⟨rfl, hspelled⟩ := accept_eq_ok haccept
  have hpos := List.length_pos_iff.2 (hspelled k hk).words_ne_nil
  have hwords : ¬(words.isEmpty = true ∨ (ofTable table).maxWords < words.length) := by
    rw [List.isEmpty_iff, ← List.length_eq_zero_iff]
    omega
  have hpairwise := (KeywordTable.fault?_eq_none_iff.1 (accept_eq_ok_iff.1 haccept).2).2
  rw [find?, if_neg hwords, ← h.key_eq, List.find?_eq_some_iff_append]
  obtain ⟨front, back, hsplit⟩ := List.append_of_mem hk
  rw [hsplit, List.pairwise_append] at hpairwise
  refine ⟨by simp, front.map fun j => ⟨j.key, j.canonical, j⟩,
    back.map fun j => ⟨j.key, j.canonical, j⟩, ?_, ?_⟩
  · rw [ofTable, hsplit, List.map_append, List.map_cons]
  · intro entry hentry
    obtain ⟨j, hj, rfl⟩ := List.mem_map.1 hentry
    simpa using hpairwise.2.2 j hj k List.mem_cons_self

theorem isOpening_take_of_spells (haccept : accept table = .ok v) (hk : k ∈ table.keywords)
    (h : k.Spells words) {n : Nat} (hpos : 0 < n) (hlt : n < words.length) :
    v.isOpening (words.take n) = true := by
  obtain ⟨rfl, -⟩ := accept_eq_ok haccept
  have hlength := h.length_eq
  have hopening : k.words.take n ∈ properOpenings k.words := by
    obtain ⟨m, rfl⟩ := Nat.exists_eq_add_one_of_ne_zero (Nat.pos_iff_ne_zero.1 hpos)
    exact List.mem_map.2 ⟨m, List.mem_range.2 (by omega), rfl⟩
  rw [isOpening, List.contains_iff_mem, ← h.lookupKey_take_eq]
  exact List.mem_flatMap.2 ⟨k, hk, List.mem_map_of_mem hopening⟩

theorem spells_of_find? (haccept : accept table = .ok v) (hspace : ∀ w ∈ words, ' ' ∉ w)
    {entry : IndexEntry} (h : v.find? words = some entry) :
    ∃ k ∈ table.keywords, k.Spells words ∧ entry = ⟨k.key, k.canonical, k⟩ := by
  obtain ⟨k, hk, -, hentry, hwords⟩ := find?_eq_some haccept hspace h
  exact ⟨k, hk, hwords, hentry⟩

theorem spells_unique (haccept : accept table = .ok v) {j : Keyword} (hj : j ∈ table.keywords)
    (hk : k ∈ table.keywords) (hjwords : j.Spells words) (hkwords : k.Spells words) : j = k := by
  have h := (find?_of_spells haccept hj hjwords).symm.trans (find?_of_spells haccept hk hkwords)
  exact congrArg IndexEntry.keyword (Option.some.inj h)

end Vocabulary

end LoadScript
