import LoadScript.Proofs.Unicode.Characters

set_option autoImplicit false
set_option relaxedAutoImplicit false

namespace LoadScript.Unicode

private theorem upper_images :
    (∀ r ∈ upperRuns, ∀ w ∈ whiteSpaceRanges, 0 < w.1 ∧ (r.last + r.offset < w.1 ∨ w.2 < r.first + r.offset)) ∧
      ∀ e ∈ upperExpansions, ∀ n ∈ e.2, isWhiteSpace (Char.ofNat n) = false := by
  decide +kernel

theorem exists_of_isWhiteSpace_ofNat {n : Nat} (h : isWhiteSpace (Char.ofNat n) = true) :
    ∃ w ∈ whiteSpaceRanges, w.1 ≤ n ∧ n ≤ w.2 := by
  by_cases hvalid : n.isValidChar
  · rw [Char.ofNat, dif_pos hvalid] at h
    exact RangeTable.exists_of_holds h
  · rw [Char.ofNat, dif_neg hvalid] at h
    exact absurd h (by decide)

theorem upperChar_cases (c : Char) :
    upperChar c = [c] ∨
      (∃ r ∈ upperRuns, r.first ≤ c.toNat ∧ c.toNat ≤ r.last ∧
        upperChar c = [Char.ofNat (c.toNat + r.offset).toNat]) ∨
      ∃ e ∈ upperExpansions, upperChar c = e.2.map Char.ofNat := by
  unfold upperChar
  split
  · next n himage =>
    obtain ⟨r, hr, hfirst, hlast, rfl⟩ := CaseRun.exists_of_image? himage
    exact Or.inr (Or.inl ⟨r, hr, hfirst, hlast, rfl⟩)
  · split
    · exact Or.inl rfl
    · split
      · next ns hlookup =>
        obtain ⟨front, back, hsplit, -⟩ := List.lookup_eq_some_iff.1 hlookup
        exact Or.inr (Or.inr ⟨(c.toNat, ns), by rw [hsplit]; simp, rfl⟩)
      · exact Or.inl rfl

theorem isWhiteSpace_of_mem_upperChar {c d : Char} (hd : d ∈ upperChar c) (h : isWhiteSpace d = true) :
    isWhiteSpace c = true := by
  rcases upperChar_cases c with hself | ⟨r, hr, hfirst, hlast, hrun⟩ | ⟨e, he, hexpansion⟩
  · rw [hself] at hd
    obtain rfl := List.mem_singleton.1 hd
    exact h
  · rw [hrun] at hd
    obtain rfl := List.mem_singleton.1 hd
    obtain ⟨w, hw, hlow, hhigh⟩ := exists_of_isWhiteSpace_ofNat h
    obtain ⟨hpos, hapart⟩ := upper_images.1 r hr w hw
    omega
  · rw [hexpansion] at hd
    obtain ⟨n, hn, rfl⟩ := List.mem_map.1 hd
    exact absurd (upper_images.2 e he n hn ▸ h) Bool.false_ne_true

theorem exists_isWhiteSpace_of_mem_uppercase {text : List Char} {d : Char} (hd : d ∈ uppercase text)
    (h : isWhiteSpace d = true) : ∃ c ∈ text, isWhiteSpace c = true := by
  obtain ⟨c, hc, hdc⟩ := List.mem_flatMap.1 hd
  exact ⟨c, hc, isWhiteSpace_of_mem_upperChar hdc h⟩

end LoadScript.Unicode
