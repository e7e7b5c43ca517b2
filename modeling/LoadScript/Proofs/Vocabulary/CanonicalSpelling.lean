import LoadScript.Proofs.Unicode.UpperCase
import LoadScript.Proofs.Vocabulary.Entries

/-!
Canonical spellings. They are in upper case, while keywords are found by their lower case; so a canonical spelling finds
its keyword just if no word of the keyword gets another lower case on the way through upper case. Most letters keep
theirs, but a sharp s becomes two letters and a dotless i the common one.
-/

set_option autoImplicit false
set_option relaxedAutoImplicit false

namespace LoadScript

open Unicode

namespace Unicode

/-- Holds of a character that has the same lower case in upper case, wherever it stands. The lower case of a capital
sigma depends on its place. -/
def isSteady (c : Char) : Bool :=
  decide ('Σ' ∉ c :: upperChar c ∧ (upperChar c).flatMap lowerChar = lowerChar c)

theorem lowercaseAfter_eq_flatMap {text : List Char} (h : 'Σ' ∉ text) (before : List Char) :
    lowercaseAfter before text = text.flatMap lowerChar := by
  induction text generalizing before with
  | nil => rfl
  | cons c rest ih =>
    obtain ⟨hc, hrest⟩ := not_or.1 (mt List.mem_cons.2 h)
    rw [lowercaseAfter, if_neg (Ne.symm hc), ih hrest, List.flatMap_cons]

theorem lowercase_uppercase_of_isSteady {word : List Char} (h : ∀ c ∈ word, isSteady c = true) :
    lowercase (uppercase word) = lowercase word := by
  have hsteady : ∀ c ∈ word, 'Σ' ∉ c :: upperChar c ∧ (upperChar c).flatMap lowerChar = lowerChar c :=
    fun c hc => of_decide_eq_true (h c hc)
  have hword : 'Σ' ∉ word := fun hmem => (hsteady 'Σ' hmem).1 List.mem_cons_self
  have hupper : 'Σ' ∉ uppercase word := by
    intro hmem
    obtain ⟨c, hc, hsigma⟩ := List.mem_flatMap.1 hmem
    exact (hsteady c hc).1 (List.mem_cons_of_mem c hsigma)
  rw [lowercase, lowercaseAfter_eq_flatMap hupper, lowercase, lowercaseAfter_eq_flatMap hword, uppercase,
    List.flatMap_assoc, List.flatMap_def, List.flatMap_def]
  exact congrArg List.flatten (List.map_congr_left fun c hc => (hsteady c hc).2)

theorem isSteady_of_lt {c : Char} (h : c.toNat < 128) : isSteady c = true := by
  have hascii : ∀ n < 128, isSteady (Char.ofNat n) = true := by decide +kernel
  rw [← Char.ofNat_toNat c]
  exact hascii c.toNat h

end Unicode

theorem eq_or_mem_of_mem_intercalate {α : Type} {a separator : α} {parts : List (List α)}
    (h : a ∈ List.intercalate [separator] parts) : a = separator ∨ ∃ part ∈ parts, a ∈ part := by
  induction parts with
  | nil => exact absurd h List.not_mem_nil
  | cons part rest ih =>
    by_cases hrest : rest = []
    · subst hrest
      exact Or.inr ⟨part, List.mem_cons_self, by simpa using h⟩
    · rw [List.intercalate_cons_of_ne_nil hrest, List.mem_append, List.mem_append] at h
      rcases h with (h | h) | h
      · exact Or.inr ⟨part, List.mem_cons_self, h⟩
      · exact Or.inl (List.mem_singleton.1 h)
      · exact (ih h).imp_right fun ⟨other, hother, ha⟩ => ⟨other, List.mem_cons_of_mem part hother, ha⟩

namespace Keyword.WellSpelled

variable {j k : Keyword}

theorem isWhiteSpace_uppercase (h : k.WellSpelled) :
    ∀ w ∈ k.words.map uppercase, ∀ c ∈ w, isWhiteSpace c = false := by
  intro w hw c hc
  obtain ⟨u, hu, rfl⟩ := List.mem_map.1 hw
  rw [Bool.eq_false_iff]
  intro hwhite
  obtain ⟨d, hd, hwhite⟩ := exists_isWhiteSpace_of_mem_uppercase hc hwhite
  have hpart := isWordPart_of_mem_frontWord (frontWord_of_isWholeWord (h.isWholeWord_of_mem u hu) ▸ hd)
  exact Bool.false_ne_true ((isWordPart_eq_false_of_isWhiteSpace hwhite).symm.trans hpart)

theorem space_not_mem_uppercase (h : k.WellSpelled) : ∀ w ∈ k.words.map uppercase, ' ' ∉ w := by
  intro w hw hspace
  exact Bool.false_ne_true ((h.isWhiteSpace_uppercase w hw ' ' hspace).symm.trans (by decide))

theorem splitOn_canonical (h : k.WellSpelled) : k.canonical.toList.splitOn ' ' = k.words.map uppercase := by
  rw [canonical, String.toList_ofList, joinWords]
  exact List.splitOn_intercalate ' ' h.space_not_mem_uppercase (by simpa using h.words_ne_nil)

theorem eq_space_of_mem_canonical (h : k.WellSpelled) {c : Char} (hc : c ∈ k.canonical.toList)
    (hwhite : isWhiteSpace c = true) : c = ' ' := by
  rw [canonical, String.toList_ofList, joinWords] at hc
  rcases eq_or_mem_of_mem_intercalate hc with rfl | ⟨w, hw, hcw⟩
  · rfl
  · exact absurd ((h.isWhiteSpace_uppercase w hw c hcw).symm.trans hwhite) Bool.false_ne_true

theorem canonical_eq_iff (hj : j.WellSpelled) (hk : k.WellSpelled) :
    j.canonical = k.canonical ↔ j.words.map uppercase = k.words.map uppercase := by
  constructor
  · intro h
    rw [← hj.splitOn_canonical, h, hk.splitOn_canonical]
  · intro h
    rw [canonical, h, canonical]

end Keyword.WellSpelled

/-- Holds of a keyword whose words have the same lower case when they are written in upper case first. -/
def Keyword.KeepsCase (k : Keyword) : Prop :=
  ∀ w ∈ k.words, lowercase (uppercase w) = lowercase w

instance (k : Keyword) : Decidable k.KeepsCase :=
  inferInstanceAs (Decidable (∀ w ∈ k.words, _))

theorem Keyword.spells_uppercase_iff (k : Keyword) : k.Spells (k.words.map uppercase) ↔ k.KeepsCase := by
  rw [Spells, List.map_map, List.map_inj_left]
  exact forall₂_congr fun w _ => eq_comm

namespace Vocabulary

variable {table : KeywordTable} {v : Vocabulary} {j k : Keyword}

theorem find?_canonical_iff (haccept : accept table = .ok v) (hk : k ∈ table.keywords) :
    v.find? (k.canonical.toList.splitOn ' ') = some ⟨k.key, k.canonical, k⟩ ↔ k.KeepsCase := by
  have hspelled := (accept_eq_ok haccept).2 k hk
  rw [hspelled.splitOn_canonical, ← k.spells_uppercase_iff]
  constructor
  · intro hfind
    obtain ⟨j, -, hspells, hentry⟩ := spells_of_find? haccept hspelled.space_not_mem_uppercase hfind
    obtain rfl : k = j := congrArg IndexEntry.keyword hentry
    exact hspells
  · exact find?_of_spells haccept hk

theorem eq_of_canonical_eq (haccept : accept table = .ok v) (hj : j ∈ table.keywords) (hk : k ∈ table.keywords)
    (hjcase : j.KeepsCase) (hkcase : k.KeepsCase) (h : j.canonical = k.canonical) : j = k := by
  have hspelled := (accept_eq_ok haccept).2
  have hupper := ((hspelled j hj).canonical_eq_iff (hspelled k hk)).1 h
  exact spells_unique haccept hj hk (j.spells_uppercase_iff.2 hjcase) (hupper ▸ k.spells_uppercase_iff.2 hkcase)

end Vocabulary

/-- The canonical spelling of a keyword finds it just if the words of the keyword keep their lower case, and keywords
that do are told apart by their canonical spellings. Words of steady characters do, and all of ASCII is steady. -/
theorem canonical_identifies {table : KeywordTable} {v : Vocabulary} (haccept : Vocabulary.accept table = .ok v) :
    (∀ k ∈ table.keywords,
        v.find? (k.canonical.toList.splitOn ' ') = some ⟨k.key, k.canonical, k⟩ ↔ k.KeepsCase) ∧
      (∀ j ∈ table.keywords, ∀ k ∈ table.keywords,
        j.KeepsCase → k.KeepsCase → j.canonical = k.canonical → j = k) ∧
      (∀ k : Keyword, (∀ w ∈ k.words, ∀ c ∈ w, isSteady c = true) → k.KeepsCase) ∧
      ∀ c : Char, c.toNat < 128 → isSteady c = true :=
  ⟨fun _ hk => Vocabulary.find?_canonical_iff haccept hk,
    fun _ hj _ hk => Vocabulary.eq_of_canonical_eq haccept hj hk,
    fun _ hsteady w hw => lowercase_uppercase_of_isSteady (hsteady w hw),
    fun _ => isSteady_of_lt⟩

theorem umlauts_found_in_upper_case :
    let k : Keyword := ⟨"Öffne\tTür", .script, .leader, false⟩
    let table : KeywordTable := ⟨"1", [k]⟩
    let v := Vocabulary.ofTable table
    Vocabulary.accept table = .ok v ∧ k ∈ table.keywords ∧ k.KeepsCase ∧ k.canonical = "ÖFFNE TÜR" ∧
      v.find? (k.canonical.toList.splitOn ' ') = some ⟨k.key, k.canonical, k⟩ := by
  intro k table v
  have hfacts : table.fault? = none ∧ k.KeepsCase ∧ k.canonical = "ÖFFNE TÜR" := by decide +kernel
  obtain ⟨hfault, hcase, hcanonical⟩ := hfacts
  have haccept : Vocabulary.accept table = .ok v := Vocabulary.accept_of_fault? hfault
  have hk : k ∈ table.keywords := List.mem_singleton_self k
  exact ⟨haccept, hk, hcase, hcanonical, ((canonical_identifies haccept).1 k hk).2 hcase⟩

/-- A keyword alone in its table is not found by its canonical spelling, and next to another one it shares it. -/
theorem sharp_s_not_found_in_upper_case :
    let sharp : Keyword := ⟨"ß", .script, .leader, false⟩
    let double : Keyword := ⟨"ss", .script, .leader, false⟩
    let alone : KeywordTable := ⟨"1", [sharp]⟩
    let both : KeywordTable := ⟨"1", [sharp, double]⟩
    Vocabulary.accept alone = .ok (.ofTable alone) ∧
      (Vocabulary.ofTable alone).find? (sharp.canonical.toList.splitOn ' ') ≠
        some ⟨sharp.key, sharp.canonical, sharp⟩ ∧
      Vocabulary.accept both = .ok (.ofTable both) ∧ sharp ≠ double ∧ sharp.canonical = double.canonical := by
  intro sharp double alone both
  have hfacts : alone.fault? = none ∧ both.fault? = none ∧ sharp ≠ double ∧ sharp.canonical = double.canonical ∧
      ¬sharp.KeepsCase := by
    decide +kernel
  obtain ⟨halone, hboth, hne, hcanonical, hcase⟩ := hfacts
  have haccept : Vocabulary.accept alone = .ok (.ofTable alone) := Vocabulary.accept_of_fault? halone
  have hsharp : sharp ∈ alone.keywords := List.mem_singleton_self sharp
  exact ⟨haccept, mt (Vocabulary.find?_canonical_iff haccept hsharp).1 hcase, Vocabulary.accept_of_fault? hboth, hne,
    hcanonical⟩

end LoadScript
