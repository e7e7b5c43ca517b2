import LoadScript.Unicode.LetterCase
import LoadScript.Unicode.WhiteSpace
import LoadScript.Word

set_option autoImplicit false
set_option relaxedAutoImplicit false

namespace LoadScript.Unicode

theorem RangeTable.exists_of_holds {table : RangeTable} {n : Nat}
    (h : RangeTable.holds table n = true) : ∃ r ∈ table, r.1 ≤ n ∧ n ≤ r.2 := by
  induction table with
  | nil => exact absurd h Bool.false_ne_true
  | cons r rest ih =>
    obtain ⟨low, high⟩ := r
    rw [holds] at h
    split at h
    · exact absurd h Bool.false_ne_true
    · next hlow =>
      split at h
      · next hhigh => exact ⟨(low, high), List.mem_cons_self, Nat.le_of_not_lt hlow, hhigh⟩
      · obtain ⟨r, hr, hbounds⟩ := ih h
        exact ⟨r, List.mem_cons_of_mem _ hr, hbounds⟩

theorem exists_of_isWhiteSpace {c : Char} (h : isWhiteSpace c = true) :
    ∃ r ∈ whiteSpaceRanges, c.toNat ∈ List.range' r.1 (r.2 + 1 - r.1) := by
  obtain ⟨r, hr, hlow, hhigh⟩ := RangeTable.exists_of_holds h
  refine ⟨r, hr, ?_⟩
  rw [List.mem_range'_1]
  omega

private theorem whiteSpace_classes : ∀ r ∈ whiteSpaceRanges, ∀ n ∈ List.range' r.1 (r.2 + 1 - r.1),
    isWordPart (Char.ofNat n) = false ∧ isDigit (Char.ofNat n) = false ∧
      Char.ofNat n ∉ ['.', 'e', 'E', '+', '-'] := by
  decide +kernel

theorem classes_of_isWhiteSpace {c : Char} (h : isWhiteSpace c = true) :
    isWordPart c = false ∧ isDigit c = false ∧ c ∉ ['.', 'e', 'E', '+', '-'] := by
  obtain ⟨r, hr, hmem⟩ := exists_of_isWhiteSpace h
  have hclasses := whiteSpace_classes r hr c.toNat hmem
  rwa [Char.ofNat_toNat] at hclasses

theorem isWordPart_eq_false_of_isWhiteSpace {c : Char} (h : isWhiteSpace c = true) : isWordPart c = false :=
  (classes_of_isWhiteSpace h).1

theorem newline_isWhiteSpace : isWhiteSpace '\n' = true := by
  decide

theorem isWordPart_of_isWordStart {c : Char} (h : isWordStart c = true) : isWordPart c = true := by
  simp only [isWordStart, Bool.or_eq_true] at h
  simp only [isWordPart, Bool.or_eq_true]
  rcases h with ((h | h) | h) | h <;> simp [h]

theorem isWordStart_eq_false_of_not_isWordPart {c : Char} (h : isWordPart c = false) : isWordStart c = false :=
  Bool.eq_false_iff.2 fun hstart => Bool.false_ne_true (h.symm.trans (isWordPart_of_isWordStart hstart))

/-- The characters that announce something else than white space, a number or a word, and those that close it. -/
def marks : List Char :=
  "/<>=&+-*;,:()'\"[]$".toList

theorem classes_of_mem_marks {c : Char} (hc : c ∈ marks) : isWordPart c = false ∧ isWhiteSpace c = false := by
  -- stated with `all`: a `∀` over characters would be decided by trying every character
  have hmarks : (marks.all fun c => !isWordPart c && !isWhiteSpace c) = true := by decide +kernel
  simpa using List.all_eq_true.1 hmarks c hc

theorem isWordStart_eq_false_of_mem_marks {c : Char} (hc : c ∈ marks) : isWordStart c = false :=
  isWordStart_eq_false_of_not_isWordPart (classes_of_mem_marks hc).1

private theorem digit_not_isWordStart : ∀ n ∈ List.range' 48 10,
    isWordStart (Char.ofNat n) = false := by
  decide

theorem isWordStart_eq_false_of_isDigit {c : Char} (h : isDigit c = true) : isWordStart c = false := by
  obtain ⟨hlow, hhigh⟩ : '0' ≤ c ∧ c ≤ '9' := of_decide_eq_true h
  have hmem : c.toNat ∈ List.range' 48 10 := by
    rw [List.mem_range'_1]
    exact ⟨hlow, Nat.lt_succ_of_le hhigh⟩
  simpa only [Char.ofNat_toNat] using digit_not_isWordStart c.toNat hmem

theorem CaseRun.exists_of_image? {runs : List CaseRun} {n m : Nat}
    (h : CaseRun.image? runs n = some m) :
    ∃ r ∈ runs, r.first ≤ n ∧ n ≤ r.last ∧ m = (n + r.offset).toNat := by
  induction runs with
  | nil => exact absurd h.symm (Option.some_ne_none m)
  | cons r rest ih =>
    rw [image?] at h
    split at h
    · exact absurd h.symm (Option.some_ne_none m)
    · next hfirst =>
      split at h
      · next hlast =>
        exact ⟨r, List.mem_cons_self, Nat.le_of_not_lt hfirst, hlast.1, (Option.some.inj h).symm⟩
      · obtain ⟨r, hr, hbounds⟩ := ih h
        exact ⟨r, List.mem_cons_of_mem _ hr, hbounds⟩

private theorem space_lt_image : ∀ r ∈ lowerRuns, 0x20 < r.first + r.offset := by
  decide +kernel

private theorem eq_of_ofNat_eq_space {n : Nat} (h : Char.ofNat n = ' ') : n = 0x20 := by
  by_cases hvalid : n.isValidChar
  · rw [Char.ofNat, dif_pos hvalid] at h
    exact congrArg Char.toNat h
  · rw [Char.ofNat, dif_neg hvalid] at h
    exact absurd h (by decide)

theorem eq_space_of_mem_lowerChar {c : Char} (h : ' ' ∈ lowerChar c) : c = ' ' := by
  unfold lowerChar at h
  split at h
  · exact absurd h (by decide)
  · split at h
    · next n himage =>
      obtain ⟨r, hr, hfirst, -, rfl⟩ := CaseRun.exists_of_image? himage
      have hspace := eq_of_ofNat_eq_space (List.mem_singleton.1 h).symm
      have hlt := space_lt_image r hr
      omega
    · exact (List.mem_singleton.1 h).symm

theorem space_mem_of_mem_lowercaseAfter {before text : List Char}
    (h : ' ' ∈ lowercaseAfter before text) : ' ' ∈ text := by
  induction text generalizing before with
  | nil => exact absurd h List.not_mem_nil
  | cons c rest ih =>
    rw [lowercaseAfter] at h
    rcases List.mem_append.1 h with h | h
    · split at h
      · unfold lowerSigma at h
        split at h <;> exact absurd h (by decide)
      · rw [eq_space_of_mem_lowerChar h]
        exact List.mem_cons_self
    · exact List.mem_cons_of_mem c (ih h)

theorem space_not_mem_lowercase {text : List Char} (h : ' ' ∉ text) : ' ' ∉ lowercase text :=
  fun hmem => h (space_mem_of_mem_lowercaseAfter hmem)

end LoadScript.Unicode
