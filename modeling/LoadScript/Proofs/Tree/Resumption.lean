import LoadScript.Proofs.Tree.Conservation
import LoadScript.Proofs.Tree.ParenScan

set_option autoImplicit false
set_option relaxedAutoImplicit false

namespace LoadScript

theorem Assembly.append_assoc (a b c : Assembly) : (a.append b).append c = a.append (b.append c) := by
  simp [append]

theorem Assembly.append_empty (a : Assembly) : a.append .empty = a := by
  simp [append, empty]

namespace Progress

variable {limit : Nat} {t : Token}

theorem step_of_semicolon (ht : t.kind = .semicolon) (p : Progress) (next : Option Token) :
    p.step limit t next = ((p.step limit t none).1, .between) := by
  cases p with
  | between => simp [step, enter, ht, TokenKind.isName]
  | labelled name => rfl
  | inside d => simp [step, ht]
  | headed d => simp [step, ht]

/-- Behind a semicolon the assembly starts anew. -/
theorem run_append_of_semicolon {front : List Token} (hlast : front.getLast? = some t)
    (ht : t.kind = .semicolon) (p : Progress) (back : List Token) :
    p.run limit (front ++ back) = (p.run limit front).append (between.run limit back) := by
  induction front generalizing p with
  | nil => exact absurd hlast.symm (Option.some_ne_none t)
  | cons u rest ih =>
    cases rest with
    | nil =>
      obtain rfl : u = t := Option.some.inj hlast
      have hlong : p.run limit (u :: back) =
          (p.step limit u none).1.append (between.run limit back) := by
        rw [run, step_of_semicolon ht]
      have hshort : p.run limit [u] = (p.step limit u none).1 := by
        rw [run, step_of_semicolon ht]
        exact Assembly.append_empty _
      rw [List.singleton_append, hlong, hshort]
    | cons v more =>
      rw [List.getLast?_cons_cons] at hlast
      have hrest := ih hlast (p.step limit u (some v)).2
      rw [List.cons_append, run, run, Assembly.append_assoc]
      exact congrArg (Assembly.append _) hrest

end Progress

namespace ParenScan

variable {limit : Nat} {opens : List Nat}

theorem offset_mem_of_mem_atEnd {p : Problem} (h : p ∈ atEnd limit opens) : p.offset ∈ opens := by
  induction opens with
  | nil => exact absurd h List.not_mem_nil
  | cons offset below ih =>
    rw [atEnd] at h
    rcases List.mem_append.1 h with h | h
    · split at h
      · rw [List.mem_singleton.1 h]
        exact List.mem_cons_self
      · exact absurd h List.not_mem_nil
    · exact List.mem_cons_of_mem offset (ih h)

theorem step_offsets (limit : Nat) (opens : List Nat) (t : Token) :
    (∀ p ∈ (step limit opens t).1, p.offset ∈ opens ∨ p.offset = t.span.start) ∧
      ∀ offset ∈ (step limit opens t).2, offset ∈ opens ∨ offset = t.span.start := by
  unfold step
  split
  · refine ⟨?_, ?_⟩
    · intro p hp
      split at hp
      · rw [List.mem_singleton.1 hp]
        exact Or.inr rfl
      · exact absurd hp List.not_mem_nil
    · intro offset hoffset
      rcases List.mem_cons.1 hoffset with rfl | hoffset
      · exact Or.inr rfl
      · exact Or.inl hoffset
  · refine ⟨?_, fun offset hoffset => absurd hoffset List.not_mem_nil⟩
    intro p hp
    rw [List.mem_singleton.1 hp]
    exact Or.inr rfl
  · refine ⟨fun p hp => absurd hp List.not_mem_nil, ?_⟩
    exact fun offset hoffset => Or.inl (List.mem_cons_of_mem _ hoffset)
  · refine ⟨?_, fun offset hoffset => absurd hoffset List.not_mem_nil⟩
    exact fun p hp => Or.inl (offset_mem_of_mem_atEnd hp)
  · exact ⟨fun p hp => absurd hp List.not_mem_nil, fun offset hoffset => Or.inl hoffset⟩

theorem offset_of_mem_run {tokens : List Token} {p : Problem} (h : p ∈ run limit opens tokens) :
    p.offset ∈ opens ∨ ∃ t ∈ tokens, p.offset = t.span.start := by
  induction tokens generalizing opens with
  | nil => exact Or.inl (offset_mem_of_mem_atEnd h)
  | cons t rest ih =>
    obtain ⟨hproblems, hopens⟩ := step_offsets limit opens t
    rw [run] at h
    rcases List.mem_append.1 h with h | h
    · rcases hproblems p h with hmem | hstart
      · exact Or.inl hmem
      · exact Or.inr ⟨t, List.mem_cons_self, hstart⟩
    · rcases ih h with hmem | ⟨u, hu, hstart⟩
      · rcases hopens p.offset hmem with hmem | hstart
        · exact Or.inl hmem
        · exact Or.inr ⟨t, List.mem_cons_self, hstart⟩
      · exact Or.inr ⟨u, List.mem_cons_of_mem t hu, hstart⟩

end ParenScan

theorem exists_start_of_mem_problems {limit : Nat} {tokens : List Token} {p : Problem}
    (h : p ∈ (assemble limit tokens).problems) : ∃ t ∈ tokens, p.offset = t.span.start := by
  have hbetween : Progress.between.Tracks (effectiveDepth limit) [] tokens := rfl
  rw [assemble, Progress.problems_run hbetween] at h
  rcases ParenScan.offset_of_mem_run h with hmem | hstart
  · exact absurd hmem List.not_mem_nil
  · exact hstart

end LoadScript
