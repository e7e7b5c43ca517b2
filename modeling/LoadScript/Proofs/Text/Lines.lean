import Mathlib.Tactic.SplitIfs
import LoadScript.CommandLine.Report
import LoadScript.Text.Quoted

set_option autoImplicit false
set_option relaxedAutoImplicit false

namespace LoadScript.Text

open Unicode CommandLine

def IsLine (text : String) : Prop :=
  '\n' ∉ text.toList

instance (text : String) : Decidable (IsLine text) :=
  inferInstanceAs (Decidable ('\n' ∉ text.toList))

theorem isLine_append {a b : String} : IsLine (a ++ b) ↔ IsLine a ∧ IsLine b := by
  rw [IsLine, String.toList_append, List.mem_append, not_or, IsLine, IsLine]

theorem IsLine.append {a b : String} (ha : IsLine a) (hb : IsLine b) : IsLine (a ++ b) :=
  isLine_append.2 ⟨ha, hb⟩

theorem exists_lt_of_mem_toDigits {base n : Nat} {c : Char} (hbase : 1 < base) (h : c ∈ Nat.toDigits base n) :
    ∃ d < base, c = Nat.digitChar d := by
  induction n using Nat.strongRecOn with
  | ind n ih =>
    rw [Nat.toDigits_eq_if hbase] at h
    split at h
    · next hlt => exact ⟨n, hlt, List.mem_singleton.1 h⟩
    · next hge =>
      rcases List.mem_append.1 h with h | h
      · exact ih (n / base) (Nat.div_lt_self (by omega) hbase) h
      · exact ⟨n % base, Nat.mod_lt n (by omega), List.mem_singleton.1 h⟩

theorem newline_not_mem_toDigits {base : Nat} (hbase : 1 < base) (hle : base ≤ 16) (n : Nat) :
    '\n' ∉ Nat.toDigits base n := by
  have hdigits : ∀ d < 16, Nat.digitChar d ≠ '\n' := by decide
  intro h
  obtain ⟨d, hd, heq⟩ := exists_lt_of_mem_toDigits hbase h
  exact hdigits d (by omega) heq.symm

theorem isLine_toString (n : Nat) : IsLine (toString n) := by
  rw [IsLine, Nat.toString_eq_ofList_toDigits, String.toList_ofList]
  exact newline_not_mem_toDigits (by decide) (by decide) n

theorem newline_not_mem_escaped {mark : Char} (hmark : mark ≠ '\n') (c : Char) : '\n' ∉ escaped mark c := by
  unfold escaped
  split_ifs with hnul htab hreturn hnewline hmarked hhidden
  · decide
  · decide
  · decide
  · decide
  · have hc : c ≠ '\n' := by
      rcases hmarked with rfl | rfl
      · decide
      · exact hmark
    simpa using Ne.symm hc
  · rw [codePointEscape, List.mem_append, List.mem_append]
    simp [newline_not_mem_toDigits]
  · simpa using Ne.symm hnewline

theorem isLine_quote (text : String) : IsLine (quote text) := by
  rw [IsLine, quote, String.toList_ofList, quoted, List.mem_append, List.mem_cons, List.mem_flatMap]
  rintro ((h | ⟨c, -, hc⟩) | h)
  · exact absurd h (by decide)
  · exact newline_not_mem_escaped (by decide) c hc
  · exact absurd h (by decide)

theorem splitOn_closeLines {lines : List String} (h : ∀ line ∈ lines, IsLine line) :
    (closeLines lines).toList.splitOn '\n' = lines.map String.toList ++ [[]] := by
  have htext : (closeLines lines).toList = List.intercalate ['\n'] (lines.map String.toList ++ [[]]) := by
    clear h
    induction lines with
    | nil => rfl
    | cons line rest ih =>
      have hne : rest.map String.toList ++ [[]] ≠ [] := List.append_ne_nil_of_right_ne_nil _ (List.cons_ne_nil _ _)
      rw [closeLines, List.map_cons, String.join_cons, ← closeLines, String.toList_append, String.toList_append, ih,
        List.map_cons, List.cons_append, List.intercalate_cons_of_ne_nil hne]
      rfl
  rw [htext]
  refine List.splitOn_intercalate '\n' ?_ (List.append_ne_nil_of_right_ne_nil _ (List.cons_ne_nil _ _))
  intro text htext
  rcases List.mem_append.1 htext with htext | htext
  · obtain ⟨line, hline, rfl⟩ := List.mem_map.1 htext
    exact h line hline
  · rw [List.mem_singleton.1 htext]
    exact List.not_mem_nil

end LoadScript.Text
