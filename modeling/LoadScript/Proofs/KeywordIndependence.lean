import LoadScript.Proofs.Scan.Regrouping
import LoadScript.Proofs.Tree.Conservation
import LoadScript.Proofs.Tree.ParenScan

/-!
What no table of keywords has a part in. A table decides which words are keywords and so where statements begin and
end, but the comments of a script and the problems met in it are those of the script read without any keyword, unless
a keyword goes on with the word that starts a remark.
-/

set_option autoImplicit false
set_option relaxedAutoImplicit false

namespace LoadScript

open Text Unicode

def Scan.trivia (s : Scan) : List Trivia :=
  s.tokens.flatMap (fun t => t.leading ++ t.inner) ++ s.trailing

def Scan.outerTrivia (s : Scan) : List Trivia :=
  s.tokens.flatMap Token.leading ++ s.trailing

theorem Scan.mem_trivia {s : Scan} {u : Trivia} :
    u ∈ s.trivia ↔ u ∈ s.outerTrivia ∨ ∃ t ∈ s.tokens, u ∈ t.inner := by
  simp only [trivia, outerTrivia, List.mem_append, List.mem_flatMap]
  constructor
  · rintro (⟨t, ht, hu | hu⟩ | hu)
    · exact Or.inl (Or.inl ⟨t, ht, hu⟩)
    · exact Or.inr ⟨t, ht, hu⟩
    · exact Or.inl (Or.inr hu)
  · rintro ((⟨t, ht, hu⟩ | hu) | ⟨t, ht, hu⟩)
    · exact Or.inl ⟨t, ht, Or.inl hu⟩
    · exact Or.inr hu
    · exact Or.inl ⟨t, ht, Or.inr hu⟩

theorem Scan.trivia_eq_outerTrivia {s : Scan} (hplain : ∀ t ∈ s.tokens, t.inner = []) :
    s.trivia = s.outerTrivia := by
  rw [trivia, outerTrivia, List.flatMap_congr fun t ht => by rw [hplain t ht, List.append_nil]]

def Scan.comments (s : Scan) : List Trivia :=
  s.trivia.filter Trivia.isComment

theorem Scan.comments_eq_append (s : Scan) :
    s.comments = s.tokens.flatMap Token.comments ++ s.trailing.filter Trivia.isComment := by
  rw [comments, trivia, List.filter_append, List.filter_flatMap]
  rfl

theorem comments_readScript (v : Vocabulary) (limit : Nat) (source : List Char) :
    (readScript v limit source).document.comments = (scan v source).comments := by
  rw [Scan.comments_eq_append, Document.comments, Document.tokens, readScript, tokens_assemble]

/-- The comments of a token made of a group are those of the group: what is in front of a later word is inside the
token. -/
theorem Token.Groups.flatMap_comments {group : List Token} {t : Token} (h : Token.Groups group t)
    (hplain : ∀ p ∈ group, p.inner = []) : group.flatMap Token.comments = t.comments := by
  have hleading : ∀ ps : List Token, (∀ p ∈ ps, p.inner = []) →
      ps.flatMap Token.comments = (ps.flatMap Token.leading).filter Trivia.isComment := by
    intro ps hps
    rw [List.filter_flatMap]
    refine List.flatMap_congr fun p hp => ?_
    rw [Token.comments, hps p hp, List.append_nil]
  match group, h with
  | [plain], h =>
    rw [List.flatMap_singleton, Token.comments, Token.comments, h.leading_eq, h.inner_eq_nil.1, h.inner_eq_nil.2]
  | first :: second :: rest, h =>
    have hinner : t.inner.filter Trivia.isComment = t.inner := by
      rw [h.inner_eq, List.filter_filter]
      simp only [Bool.and_self]
    rw [hleading _ hplain, List.flatMap_cons, List.filter_append, Token.comments, List.filter_append, hinner,
      h.leading_eq, h.inner_eq]

theorem flatMap_comments_of_groups {groups : List (List Token)} {tokens : List Token}
    (h : List.Forall₂ Token.Groups groups tokens) (hplain : ∀ p ∈ groups.flatten, p.inner = []) :
    groups.flatten.flatMap Token.comments = tokens.flatMap Token.comments := by
  induction h with
  | nil => rfl
  | cons hgroup _ ih =>
    rw [List.flatten_cons] at hplain
    rw [List.flatten_cons, List.flatMap_append, List.flatMap_cons,
      hgroup.flatMap_comments fun p hp => hplain p (List.mem_append_left _ hp),
      ih fun p hp => hplain p (List.mem_append_right _ hp)]

theorem Scan.Regroups.comments_eq {plain s : Scan} (h : plain.Regroups s)
    (hplain : ∀ t ∈ plain.tokens, t.inner = []) : s.comments = plain.comments := by
  obtain ⟨⟨groups, hflatten, hgroups⟩, htrailing, -⟩ := h
  rw [← hflatten] at hplain
  rw [comments_eq_append, comments_eq_append, htrailing, ← hflatten, flatMap_comments_of_groups hgroups hplain]

theorem heeds_of_tokenKind {t : Token} (h : t.kind = .identifier ∨ ∃ k : Keyword, t.kind = k.tokenKind) :
    ParenScan.heeds t = false := by
  rcases h with h | ⟨k, h⟩
  · rw [ParenScan.heeds, h]
    rfl
  · rw [ParenScan.heeds, h, Keyword.tokenKind]
    cases k.tier <;> rfl

theorem Vocabulary.kind_wordMatch_cases (v : Vocabulary) (text : List Char) :
    (v.wordMatch text).kind = .identifier ∨ ∃ k : Keyword, (v.wordMatch text).kind = k.tokenKind := by
  rcases v.wordMatch_cases text with h | ⟨taken, entry, -, -, h⟩
  · exact Or.inl (by rw [h])
  · exact Or.inr ⟨entry.keyword, by rw [h]⟩

theorem Scan.filter_heeds_consToken {s s' : Scan} (t : Token)
    (h : s.tokens.filter ParenScan.heeds = s'.tokens.filter ParenScan.heeds) :
    (s.consToken t).tokens.filter ParenScan.heeds = (s'.consToken t).tokens.filter ParenScan.heeds := by
  rw [consToken, consToken, List.filter_cons, List.filter_cons, h]

theorem Scan.filter_heeds_ofPieces {ps : List Piece}
    (hps : ∀ m, .words m ∈ ps → m.kind = .identifier ∨ ∃ k : Keyword, m.kind = k.tokenKind) (offset : Nat)
    (leading : List Trivia) :
    (ofPieces offset leading (ps.flatMap Piece.plain)).tokens.filter ParenScan.heeds =
      (ofPieces offset leading ps).tokens.filter ParenScan.heeds := by
  induction ps generalizing offset leading with
  | nil => rfl
  | cons p rest ih =>
    have hrest := ih fun m hm => hps m (List.mem_cons_of_mem p hm)
    cases p with
    | trivia kind text => exact hrest _ _
    | unknown ch => exact hrest _ _
    | unterminated form text => exact hrest _ _
    | token kind text => exact filter_heeds_consToken _ (hrest _ _)
    | words m =>
      have hwords : ParenScan.heeds (m.token offset leading) = false := heeds_of_tokenKind (hps m List.mem_cons_self)
      have hnames : ∀ t ∈ (WordMatch.name m.first).token offset leading ::
          laterNames (offset + byteLength m.first) m.later, ¬ParenScan.heeds t = true := by
        refine List.forall_mem_cons.2 ⟨Bool.false_ne_true, fun t ht => ?_⟩
        obtain ⟨w, -, start, next, rfl⟩ := exists_of_mem_laterNames ht
        exact Bool.false_ne_true
      have hlength : offset + byteLength m.first + byteLength (m.later.flatMap LaterWord.text) =
          offset + byteLength m.text := by
        rw [WordMatch.text, byteLength_append, Nat.add_assoc]
      rw [List.flatMap_cons, Piece.plain, List.cons_append, ofPieces, Piece.text, WordMatch.text_name,
        ofPieces_later, hlength, foldr_consToken, ofPieces, consToken, consToken, ← List.cons_append,
        List.filter_append, List.filter_eq_nil_iff.2 hnames, List.nil_append,
        List.filter_cons_of_neg (Bool.eq_false_iff.1 hwords)]
      exact hrest _ _

theorem Scan.map_part_outerTrivia_sublist (s : Scan) : (s.outerTrivia.map Trivia.part).Sublist s.parts := by
  obtain ⟨tokens, trailing, problems⟩ := s
  rw [outerTrivia, parts, List.map_append]
  refine List.Sublist.append ?_ (List.Sublist.refl _)
  induction tokens with
  | nil => exact List.Sublist.refl _
  | cons t rest ih =>
    rw [List.flatMap_cons, List.flatMap_cons, List.map_append]
    exact List.Sublist.append (List.sublist_append_left _ _) ih

theorem Scan.pairwise_comments {s : Scan} {source : List Char} {start stop : Nat}
    (htiles : Tiles source start stop s.parts) (hplain : ∀ t ∈ s.tokens, t.inner = []) :
    s.comments.Pairwise fun a b => a.span.start < b.span.start ∧ a.span.stop ≤ b.span.start := by
  have hsublist := map_part_outerTrivia_sublist s
  rw [← trivia_eq_outerTrivia hplain] at hsublist
  have hordered := List.pairwise_map.1 (htiles.ordered.sublist hsublist)
  refine (List.Pairwise.and_mem.1 (hordered.filter Trivia.isComment)).imp fun {a b} h => ?_
  obtain ⟨ha, -, hle⟩ := h
  have hpart := hsublist.subset (List.mem_map_of_mem (f := Trivia.part) (List.mem_filter.1 ha).1)
  exact ⟨Nat.lt_of_lt_of_le (htiles.within hpart).2.1 hle, hle⟩

theorem inner_eq_nil_of_mem_scan_empty {source : List Char} {t : Token} (ht : t ∈ (scan .empty source).tokens) :
    t.inner = [] :=
  (Scan.isPlain_of_mem_ofPieces (fun _ hp => isPlain_of_mem_pieces_empty hp) ht).inner_eq

theorem problems_assemble_of_filter_heeds {as bs : List Token} (limit : Nat)
    (h : as.filter ParenScan.heeds = bs.filter ParenScan.heeds) :
    (assemble limit as).problems = (assemble limit bs).problems := by
  have hrun : ∀ ts, (assemble limit ts).problems =
      ParenScan.run (effectiveDepth limit) [] (ts.filter ParenScan.heeds) := by
    intro ts
    rw [ParenScan.run_filter_heeds]
    exact Progress.problems_run (p := .between) rfl
  rw [hrun, hrun, h]

/-- The comments and problems of a script are those of the script without keywords. -/
theorem readScript_eq_empty {table : KeywordTable} {v : Vocabulary} (haccept : Vocabulary.accept table = .ok v)
    (hrem : ∀ k ∈ table.keywords, ∀ w ∈ k.words.tail, lowercase w ≠ "rem".toList) (limit : Nat)
    (source : List Char) :
    (readScript v limit source).problems = (readScript .empty limit source).problems ∧
      (readScript v limit source).document.comments = (scan .empty source).comments := by
  have hpieces : pieces .empty source = (pieces v source).flatMap Piece.plain :=
    pieces_empty (fun _ => Vocabulary.lowercase_later_ne haccept hrem) source
  have hjoined : ∀ m, .words m ∈ pieces v source → m.Joined := fun m hm => joined_of_words_mem_pieces haccept hm
  have hkind : ∀ m, .words m ∈ pieces v source → m.kind = .identifier ∨ ∃ k : Keyword, m.kind = k.tokenKind := by
    intro m hm
    obtain ⟨text, -, rfl⟩ := exists_of_words_mem_pieces hm
    exact v.kind_wordMatch_cases text
  have hregroups := Scan.regroups_ofPieces hjoined 0 []
  have hheeded := Scan.filter_heeds_ofPieces hkind 0 []
  rw [← hpieces, ← scan_eq_ofPieces, ← scan_eq_ofPieces] at hregroups hheeded
  refine ⟨?_, ?_⟩
  · have hassembled := problems_assemble_of_filter_heeds limit hheeded
    exact congrArg sortProblems (congrArg₂ (· ++ ·) hregroups.problems_eq hassembled.symm)
  · rw [comments_readScript]
    exact hregroups.comments_eq fun t ht => inner_eq_nil_of_mem_scan_empty ht

/-- Two tables of which no keyword goes on with the word that starts a remark lead to the same problems and the same
comments of a script: those it has without keywords, one behind the other. -/
theorem readScript_same_under_tables {tableA tableB : KeywordTable} {a b : Vocabulary}
    (ha : Vocabulary.accept tableA = .ok a) (hb : Vocabulary.accept tableB = .ok b)
    (hremA : ∀ k ∈ tableA.keywords, ∀ w ∈ k.words.tail, lowercase w ≠ "rem".toList)
    (hremB : ∀ k ∈ tableB.keywords, ∀ w ∈ k.words.tail, lowercase w ≠ "rem".toList) (limit : Nat)
    (source : List Char) :
    (readScript a limit source).problems = (readScript b limit source).problems ∧
      (readScript a limit source).document.comments = (readScript b limit source).document.comments ∧
      (readScript a limit source).document.comments = (scan .empty source).comments ∧
      (scan .empty source).comments.Pairwise fun c d =>
        c.span.start < d.span.start ∧ c.span.stop ≤ d.span.start := by
  obtain ⟨hproblemsA, hcommentsA⟩ := readScript_eq_empty ha hremA limit source
  obtain ⟨hproblemsB, hcommentsB⟩ := readScript_eq_empty hb hremB limit source
  refine ⟨hproblemsA.trans hproblemsB.symm, hcommentsA.trans hcommentsB.symm, hcommentsA, ?_⟩
  exact Scan.pairwise_comments (tiles_parts_scan .empty source) fun t ht => inner_eq_nil_of_mem_scan_empty ht

/-- Under one table a comment is inside a keyword that starts a statement, under the other in front of a name. -/
theorem comment_in_keyword_same_under_tables :
    let tableA : KeywordTable := ⟨"1", [⟨"end if", .control, .leader, false⟩]⟩
    let tableB : KeywordTable := ⟨"2", [⟨"end", .script, .leader, true⟩, ⟨"rem", .logical, .clause, false⟩]⟩
    let a := Vocabulary.ofTable tableA
    let b := Vocabulary.ofTable tableB
    let source := "x ( End /* all */ If ) rem c; ) ? // d".toList
    Vocabulary.accept tableA = .ok a ∧ Vocabulary.accept tableB = .ok b ∧
      (∀ k ∈ tableA.keywords, ∀ w ∈ k.words.tail, lowercase w ≠ "rem".toList) ∧
      (∀ k ∈ tableB.keywords, ∀ w ∈ k.words.tail, lowercase w ≠ "rem".toList) ∧
      (readScript a 8 source).problems = (readScript b 8 source).problems ∧
      (readScript a 8 source).document.comments = (readScript b 8 source).document.comments ∧
      (readScript a 8 source).document.comments.map Trivia.text = ["/* all */", "rem c;", "// d"] := by
  intro tableA tableB a b source
  have ha : Vocabulary.accept tableA = .ok a := Vocabulary.accept_of_fault? (by decide +kernel)
  have hb : Vocabulary.accept tableB = .ok b := Vocabulary.accept_of_fault? (by decide +kernel)
  have hremA : ∀ k ∈ tableA.keywords, ∀ w ∈ k.words.tail, lowercase w ≠ "rem".toList := by decide +kernel
  have hremB : ∀ k ∈ tableB.keywords, ∀ w ∈ k.words.tail, lowercase w ≠ "rem".toList := by decide +kernel
  obtain ⟨hproblems, hcomments, hplain, -⟩ := readScript_same_under_tables ha hb hremA hremB 8 source
  refine ⟨ha, hb, hremA, hremB, hproblems, hcomments, ?_⟩
  rw [hplain]
  decide +kernel

end LoadScript
