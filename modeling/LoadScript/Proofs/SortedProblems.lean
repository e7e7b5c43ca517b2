import LoadScript.Document
import LoadScript.Proofs.Scan.Shift

set_option autoImplicit false
set_option relaxedAutoImplicit false

namespace LoadScript

theorem offset_le_trans (p q r : Problem) (hpq : decide (p.offset ≤ q.offset) = true)
    (hqr : decide (q.offset ≤ r.offset) = true) : decide (p.offset ≤ r.offset) = true :=
  decide_eq_true (Nat.le_trans (of_decide_eq_true hpq) (of_decide_eq_true hqr))

theorem offset_le_total (p q : Problem) :
    (decide (p.offset ≤ q.offset) || decide (q.offset ≤ p.offset)) = true := by
  simpa using Nat.le_total p.offset q.offset

theorem pairwise_sortProblems (problems : List Problem) :
    (sortProblems problems).Pairwise fun p q => p.offset ≤ q.offset := by
  have hsorted := List.pairwise_mergeSort offset_le_trans offset_le_total problems
  rw [sortProblems]
  simpa only [decide_eq_true_eq] using hsorted

theorem filter_lt_append_filter_le {problems : List Problem} (offset : Nat)
    (h : problems.Pairwise fun a b => a.offset ≤ b.offset) :
    problems.filter (fun p => p.offset < offset) ++ problems.filter (fun p => offset ≤ p.offset) =
      problems := by
  induction problems with
  | nil => rfl
  | cons p rest ih =>
    obtain ⟨hp, hrest⟩ := List.pairwise_cons.1 h
    by_cases hlt : p.offset < offset
    · have hle : ¬offset ≤ p.offset := Nat.not_le.2 hlt
      rw [List.filter_cons_of_pos (by simpa using hlt), List.filter_cons_of_neg (by simpa using hle),
        List.cons_append, ih hrest]
    · have hle : offset ≤ p.offset := Nat.le_of_not_lt hlt
      have hnil : (p :: rest).filter (fun q => q.offset < offset) = [] := by
        rw [List.filter_eq_nil_iff]
        intro q hq
        rcases List.mem_cons.1 hq with rfl | hq
        · simpa using hle
        · simpa using Nat.le_trans hle (hp q hq)
      have hself : (p :: rest).filter (fun q => offset ≤ q.offset) = p :: rest := by
        rw [List.filter_eq_self]
        intro q hq
        rcases List.mem_cons.1 hq with rfl | hq
        · simpa using hle
        · simpa using Nat.le_trans hle (hp q hq)
      rw [hnil, hself, List.nil_append]

theorem sortProblems_cons (p : Problem) (problems : List Problem) :
    sortProblems (p :: problems) =
      (sortProblems problems).filter (fun q => q.offset < p.offset) ++
        p :: (sortProblems problems).filter (fun q => p.offset ≤ q.offset) := by
  obtain ⟨before, after, hcons, hrest, hbefore⟩ :=
    List.mergeSort_cons offset_le_trans offset_le_total p problems
  have hsorted := pairwise_sortProblems (p :: problems)
  rw [sortProblems, hcons, List.pairwise_append] at hsorted
  have hlt : ∀ q ∈ before, q.offset < p.offset := by
    intro q hq
    simpa using hbefore q hq
  have hle : ∀ q ∈ after, p.offset ≤ q.offset := (List.pairwise_cons.1 hsorted.2.1).1
  have hfront : (before ++ after).filter (fun q => q.offset < p.offset) = before := by
    rw [List.filter_append, List.filter_eq_self.2 (by simpa using hlt),
      List.filter_eq_nil_iff.2 (by simpa using hle), List.append_nil]
  have hback : (before ++ after).filter (fun q => p.offset ≤ q.offset) = after := by
    rw [List.filter_append, List.filter_eq_nil_iff.2 (by simpa using hlt),
      List.filter_eq_self.2 (by simpa using hle), List.nil_append]
  rw [sortProblems, sortProblems, hcons, hrest, hfront, hback]

theorem filter_sortProblems (keep : Problem → Bool) (problems : List Problem) :
    (sortProblems problems).filter keep = sortProblems (problems.filter keep) := by
  induction problems with
  | nil => simp [sortProblems]
  | cons p rest ih =>
    have hcomm : ∀ other : Problem → Bool, ((sortProblems rest).filter other).filter keep =
        (sortProblems (rest.filter keep)).filter other := by
      intro other
      rw [← ih, List.filter_filter, List.filter_filter]
      congr 1
      exact funext fun q => Bool.and_comm _ _
    rw [sortProblems_cons, List.filter_append, hcomm]
    by_cases hp : keep p = true
    · rw [List.filter_cons_of_pos hp, hcomm, List.filter_cons_of_pos hp, sortProblems_cons]
    · rw [List.filter_cons_of_neg hp, hcomm, List.filter_cons_of_neg hp]
      exact filter_lt_append_filter_le p.offset (pairwise_sortProblems _)

/-- Problems in front of an offset and from it on are sorted independently, however they are mixed. -/
theorem sortProblems_mix {a b c d : List Problem} {offset : Nat} (ha : ∀ p ∈ a, p.offset < offset)
    (hb : ∀ p ∈ b, offset ≤ p.offset) (hc : ∀ p ∈ c, p.offset < offset)
    (hd : ∀ p ∈ d, offset ≤ p.offset) :
    sortProblems (a ++ b ++ (c ++ d)) = sortProblems (a ++ c) ++ sortProblems (b ++ d) := by
  have hfront : (a ++ b ++ (c ++ d)).filter (fun p => p.offset < offset) = a ++ c := by
    rw [List.filter_append, List.filter_append, List.filter_append, List.filter_eq_self.2 (by simpa using ha),
      List.filter_eq_nil_iff.2 (by simpa using hb), List.filter_eq_self.2 (by simpa using hc),
      List.filter_eq_nil_iff.2 (by simpa using hd), List.append_nil, List.append_nil]
  have hback : (a ++ b ++ (c ++ d)).filter (fun p => offset ≤ p.offset) = b ++ d := by
    rw [List.filter_append, List.filter_append, List.filter_append, List.filter_eq_nil_iff.2 (by simpa using ha),
      List.filter_eq_self.2 (by simpa using hb), List.filter_eq_nil_iff.2 (by simpa using hc),
      List.filter_eq_self.2 (by simpa using hd), List.nil_append, List.nil_append]
  rw [← hfront, ← hback, ← filter_sortProblems, ← filter_sortProblems,
    filter_lt_append_filter_le offset (pairwise_sortProblems _)]

theorem sortProblems_map_mapOffset {f : Nat → Nat} (hf : ∀ m n, f m ≤ f n ↔ m ≤ n) (problems : List Problem) :
    sortProblems (problems.map (Problem.mapOffset f)) = (sortProblems problems).map (Problem.mapOffset f) := by
  refine (List.map_mergeSort fun p _ q _ => ?_).symm
  rw [Problem.offset_mapOffset, Problem.offset_mapOffset, decide_eq_decide]
  exact (hf p.offset q.offset).symm

theorem sortProblems_map_shift (n : Nat) (problems : List Problem) :
    sortProblems (problems.map (Problem.shift n)) = (sortProblems problems).map (Problem.shift n) := by
  have hshift : Problem.shift n = Problem.mapOffset (n + ·) := funext (Problem.shift_eq_mapOffset n)
  rw [hshift]
  exact sortProblems_map_mapOffset (fun _ _ => Nat.add_le_add_iff_left) problems

end LoadScript
