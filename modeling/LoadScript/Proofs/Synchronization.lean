import LoadScript.Proofs.Scan.Concatenation
import LoadScript.Proofs.Scan.Regrouping
import LoadScript.Proofs.SortedProblems
import LoadScript.Proofs.Tree.Resumption
import LoadScript.Proofs.Tree.Shift

set_option autoImplicit false
set_option relaxedAutoImplicit false

namespace LoadScript

open Text

namespace Scan

structure EndsSettled (s : Scan) : Prop where
  kind_of_getLast : s.tokens.getLast?.map Token.kind = some .semicolon
  trailing_eq : s.trailing = []

theorem starts_lt {ps : List Piece} (hne : ∀ p ∈ ps, p.text ≠ []) (offset : Nat) (leading : List Trivia) :
    (∀ t ∈ (ofPieces offset leading ps).tokens,
        t.span.start < offset + byteLength (ps.flatMap Piece.text)) ∧
      ∀ p ∈ (ofPieces offset leading ps).problems,
        p.offset < offset + byteLength (ps.flatMap Piece.text) := by
  induction ps generalizing offset leading with
  | nil => exact ⟨fun t ht => absurd ht List.not_mem_nil, fun p hp => absurd hp List.not_mem_nil⟩
  | cons p rest ih =>
    obtain ⟨hp, hrest⟩ := List.forall_mem_cons.1 hne
    have hpos := byteLength_pos hp
    have hnext := ih hrest (offset + byteLength p.text)
    rw [List.flatMap_cons, byteLength_append, ← Nat.add_assoc]
    have hstart : offset < offset + byteLength p.text + byteLength (rest.flatMap Piece.text) := by omega
    cases p with
    | trivia kind text => exact hnext _
    | unknown ch => exact ⟨(hnext _).1, List.forall_mem_cons.2 ⟨hstart, (hnext _).2⟩⟩
    | unterminated form text => exact ⟨(hnext _).1, List.forall_mem_cons.2 ⟨hstart, (hnext _).2⟩⟩
    | token kind text => exact ⟨List.forall_mem_cons.2 ⟨hstart, (hnext _).1⟩, (hnext _).2⟩
    | words found => exact ⟨List.forall_mem_cons.2 ⟨hstart, (hnext _).1⟩, (hnext _).2⟩

theorem EndsSettled.getLast?_pieces {v : Vocabulary} {source : List Char}
    (h : (scan v source).EndsSettled) : (pieces v source).getLast? = some .semicolon := by
  obtain ⟨hlast, htrailing⟩ := h
  rw [scan_eq_ofPieces] at hlast htrailing
  rcases (pieces v source).eq_nil_or_concat with hnil | ⟨ps, p, hconcat⟩
  · rw [hnil] at hlast
    exact absurd hlast.symm (Option.some_ne_none _)
  · rw [List.concat_eq_append] at hconcat
    have hmem : p ∈ pieces v source := by
      rw [hconcat]
      exact List.mem_append_right ps List.mem_cons_self
    rw [hconcat, ofPieces_append] at hlast htrailing
    rw [hconcat, List.getLast?_concat]
    have hne : ∀ (leading : List Trivia) (t : Trivia), leading ++ [t] ≠ [] := by simp
    -- trivia at the end would trail
    cases p with
    | trivia kind text => exact absurd htrailing (hne _ _)
    | unknown ch => exact absurd htrailing (hne _ _)
    | unterminated form text => exact absurd htrailing (hne _ _)
    | token kind text =>
      have hkind : some kind = some .semicolon := by
        rw [← hlast]
        simp [append, ofPieces, consToken]
      obtain rfl := Option.some.inj hkind
      rw [eq_semicolon_of_mem_pieces hmem]
    | words m =>
      have hkind : some m.kind = some .semicolon := by
        rw [← hlast]
        simp [append, ofPieces, consToken, WordMatch.token]
      obtain ⟨text, -, rfl⟩ := exists_of_words_mem_pieces hmem
      exact absurd (Option.some.inj hkind) (v.kind_wordMatch_ne_semicolon text)

end Scan

theorem scan_append {v : Vocabulary} (hv : v.FreeOfRemarks) {front : List Char}
    (h : (scan v front).EndsSettled) (back : List Char) :
    scan v (front ++ back) = (scan v front).append ((scan v back).shift (byteLength front)) := by
  have hpieces := (Settled.of_getLast?_pieces hv h.getLast?_pieces).pieces_append hv back
  have htrailing : (Scan.ofPieces 0 [] (pieces v front)).trailing = [] := h.trailing_eq
  rw [scan_eq_ofPieces, scan_eq_ofPieces, scan_eq_ofPieces, hpieces, Scan.ofPieces_append, htrailing,
    flatMap_text_pieces, Scan.shift_ofPieces, List.map_nil, Nat.zero_add, Nat.add_zero]

theorem scan_starts_lt (v : Vocabulary) (source : List Char) :
    (∀ t ∈ (scan v source).tokens, t.span.start < byteLength source) ∧
      ∀ p ∈ (scan v source).problems, p.offset < byteLength source := by
  have hne : ∀ p ∈ pieces v source, p.text ≠ [] := fun p hp => text_ne_nil_of_mem_pieces hp
  have hstarts := Scan.starts_lt hne 0 []
  rwa [flatMap_text_pieces, Nat.zero_add] at hstarts

theorem assemble_append {front : Scan} (h : front.EndsSettled) (limit n : Nat) (back : List Token) :
    assemble limit (front.tokens ++ back.map (Token.shift n)) =
      (assemble limit front.tokens).append ((assemble limit back).shift n) := by
  obtain ⟨t, hlast, hkind⟩ := Option.map_eq_some_iff.1 h.kind_of_getLast
  rw [← assemble_map_shift]
  exact Progress.run_append_of_semicolon hlast hkind .between _

theorem offset_lt_of_mem_problems {v : Vocabulary} {source : List Char} {limit : Nat} {p : Problem}
    (h : p ∈ (assemble limit (scan v source).tokens).problems) : p.offset < byteLength source := by
  obtain ⟨t, ht, hstart⟩ := exists_start_of_mem_problems h
  rw [hstart]
  exact (scan_starts_lt v source).1 t ht

theorem le_offset_of_mem_map_shift {n : Nat} {problems : List Problem} {p : Problem}
    (h : p ∈ problems.map (Problem.shift n)) : n ≤ p.offset := by
  obtain ⟨q, -, rfl⟩ := List.mem_map.1 h
  rw [Problem.offset_shift]
  exact Nat.le_add_right n q.offset

/-- A script up to a semicolon and the script behind it are read independently: what follows the semicolon has no
part in the items and problems in front of it, and these have none in what follows but for its place. The table
need not be without fault, but none of its keywords has the word that starts a remark. -/
theorem readScript_append {table : KeywordTable}
    (hrem : ∀ k ∈ table.keywords, ∀ w ∈ k.words, Unicode.lowercase w ≠ "rem".toList) {front : List Char}
    (hfront : (scan (.ofTable table) front).EndsSettled) (limit : Nat) (back : List Char) :
    let v := Vocabulary.ofTable table
    let n := byteLength front
    let first := readScript v limit front
    let second := readScript v limit back
    let whole := readScript v limit (front ++ back)
    whole.document.items = first.document.items ++ second.document.items.map (Item.shift n) ∧
      whole.document.trailing = second.document.trailing.map (Trivia.shift n) ∧
      whole.problems = first.problems ++ second.problems.map (Problem.shift n) ∧
      ∀ item ∈ second.document.items, (item.shift n).span = item.span.shift n ∧
        (item.shift n).ranges = item.ranges.map fun r => (r.1, r.2.shift n) := by
  intro v n first second whole
  have hscan := scan_append (Vocabulary.freeOfRemarks_ofTable hrem) hfront back
  have hassemble := assemble_append hfront limit n (scan v back).tokens
  have htokens : (scan v (front ++ back)).tokens =
      (scan v front).tokens ++ (scan v back).tokens.map (Token.shift n) := by
    rw [hscan]
    rfl
  rw [← htokens] at hassemble
  refine ⟨?_, ?_, ?_, ?_⟩
  · exact congrArg Assembly.items hassemble
  · exact congrArg Scan.trailing hscan
  · -- unsorted, those of the scan stand in front of those of the assembly, and each part has both
    have hproblems : whole.problems = sortProblems
        ((scan v front).problems ++ (scan v back).problems.map (Problem.shift n) ++
          ((assemble limit (scan v front).tokens).problems ++
            (assemble limit (scan v back).tokens).problems.map (Problem.shift n))) := by
      change sortProblems ((scan v (front ++ back)).problems ++
        (assemble limit (scan v (front ++ back)).tokens).problems) = _
      rw [hassemble, hscan]
      rfl
    rw [hproblems, sortProblems_mix (scan_starts_lt v front).2 (fun p => le_offset_of_mem_map_shift)
      (fun p => offset_lt_of_mem_problems) (fun p => le_offset_of_mem_map_shift), ← List.map_append,
      sortProblems_map_shift]
    rfl
  · intro item hitem
    have hbegun : Progress.between.Begun := trivial
    have hsolid := Progress.solid_run hbegun (effectiveDepth limit) _ item hitem
    exact ⟨item.span_shift n hsolid, item.ranges_shift n⟩

/-- Neither the open parenthesis nor the keyword that could go on reaches over the semicolon. -/
theorem unclosed_end_readScript_append :
    let v := Vocabulary.ofTable endIfTable
    let front := "END /* all */ (;".toList
    let back := "if f(x));".toList
    (∀ k ∈ endIfTable.keywords, ∀ w ∈ k.words, Unicode.lowercase w ≠ "rem".toList) ∧ (scan v front).EndsSettled ∧
      (readScript v 8 (front ++ back)).problems =
        (readScript v 8 front).problems ++ (readScript v 8 back).problems.map (Problem.shift 16) ∧
      (readScript v 8 (front ++ back)).document.items.map Item.ranges =
        (readScript v 8 front).document.items.map Item.ranges ++ [[(0, ⟨19, 23⟩)]] := by
  intro v front back
  have hrem : ∀ k ∈ endIfTable.keywords, ∀ w ∈ k.words, Unicode.lowercase w ≠ "rem".toList := by
    decide +kernel
  have hfront : (scan v front).EndsSettled := ⟨by decide +kernel, by decide +kernel⟩
  have hback : (readScript v 8 back).document.items.map Item.ranges = [[(0, ⟨3, 7⟩)]] := by decide +kernel
  obtain ⟨hitems, -, hproblems, hshift⟩ := readScript_append hrem hfront 8 back
  refine ⟨hrem, hfront, hproblems, ?_⟩
  have hmoved : (readScript v 8 back).document.items.map (Item.ranges ∘ Item.shift 16) =
      ((readScript v 8 back).document.items.map Item.ranges).map (List.map fun r => (r.1, r.2.shift 16)) := by
    rw [List.map_map]
    exact List.map_congr_left fun item hitem => (hshift item hitem).2
  rw [hitems, List.map_append, List.map_map]
  exact congrArg _ (hmoved.trans (congrArg _ hback))

end LoadScript
