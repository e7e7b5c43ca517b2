import LoadScript.Document
import LoadScript.Proofs.Scan.LongestMatch
import LoadScript.Proofs.Scan.PlainPieces

/-!
Keywords that a script does not use. What some words are matched with depends only on the keywords that they spell, so
a table can be extended without any effect on the scripts in which the words of the new keyword do not occur. This is so
although the vocabulary of the larger table looks further ahead: what it has looked at in vain it does not take.
-/

set_option autoImplicit false
set_option relaxedAutoImplicit false

namespace LoadScript

open Text Unicode

/-- Holds if the words at an offset of a source, with only white space and complete comments between them, start with
the words of a keyword, whatever their case. -/
def Keyword.StandsAt (k : Keyword) (source : List Char) (offset : Nat) : Prop :=
  ∃ text ∈ dropBytes? offset source, k.Spells (((wordRun offset text).take k.words.length).map PlacedWord.word)

instance (k : Keyword) (source : List Char) (offset : Nat) : Decidable (k.StandsAt source offset) :=
  inferInstanceAs (Decidable (∃ text ∈ dropBytes? offset source, _))

theorem dropBytes?_append (before text : List Char) : dropBytes? (byteLength before) (before ++ text) = some text := by
  induction before with
  | nil => rw [byteLength, List.nil_append, dropBytes?]
  | cons c rest ih =>
    obtain ⟨n, hn⟩ := Nat.exists_eq_add_one_of_ne_zero (Nat.pos_iff_ne_zero.1 c.utf8Size_pos)
    have hlength : byteLength (c :: rest) = n + byteLength rest + 1 := by
      rw [byteLength, hn]
      omega
    have hrest : n + byteLength rest + 1 - c.utf8Size = byteLength rest := by omega
    rw [hlength, List.cons_append, dropBytes?, if_pos (by omega), hrest, ih]

theorem Keyword.Spells.standsAt {k : Keyword} {source text : List Char} {offset : Nat} {taken : List LaterWord}
    (h : k.Spells (frontWord text :: taken.map LaterWord.word)) (hat : dropBytes? offset source = some text)
    (htaken : taken <+: laterWords (afterWord text)) : k.StandsAt source offset := by
  have hlength := h.length_eq
  rw [List.length_cons, List.length_map] at hlength
  refine ⟨text, hat, ?_⟩
  rw [hlength, wordRun, List.map_take, map_word_placeRun, List.take_succ_cons, ← List.map_take,
    ← List.prefix_iff_eq_take.1 htaken]
  exact h

namespace Vocabulary

variable {table table' : KeywordTable} {v v' : Vocabulary} {text : List Char}

theorem Takes.unique (haccept : accept table = .ok v) {j k : Keyword} {others taken : List LaterWord}
    (hj : Takes table text j others) (hk : Takes table text k taken) : j = k ∧ others = taken := by
  have hlength : others.length = taken.length :=
    Nat.le_antisymm (hk.length_le j hj.mem others hj.isPrefix hj.spells)
      (hj.length_le k hk.mem taken hk.isPrefix hk.spells)
  have hprefix : others <+: taken :=
    List.prefix_of_prefix_length_le hj.isPrefix hk.isPrefix (Nat.le_of_eq hlength)
  obtain rfl : others = taken := hprefix.eq_of_length hlength
  exact ⟨spells_unique haccept hj.mem hk.mem hj.spells hk.spells, rfl⟩

/-- Holds of two tables that have the same keywords among those that the first words of a text spell. -/
def AgreeAt (table table' : KeywordTable) (text : List Char) : Prop :=
  ∀ k taken, taken <+: laterWords (afterWord text) → k.Spells (frontWord text :: taken.map LaterWord.word) →
    (k ∈ table.keywords ↔ k ∈ table'.keywords)

theorem Takes.of_agreeAt (hagree : AgreeAt table table' text) {k : Keyword} {taken : List LaterWord}
    (h : Takes table text k taken) : Takes table' text k taken where
  mem := (hagree k taken h.isPrefix h.spells).1 h.mem
  isPrefix := h.isPrefix
  spells := h.spells
  length_le := fun j hj others hothers hspells =>
    h.length_le j ((hagree j others hothers hspells).2 hj) others hothers hspells

/-- What the first words of a text are matched with depends only on the keywords that they spell. -/
theorem wordMatch_of_agreeAt (haccept : accept table = .ok v) (haccept' : accept table' = .ok v')
    (hagree : AgreeAt table table' text) : v.wordMatch text = v'.wordMatch text := by
  rcases wordMatch_longest haccept text with ⟨hnone, hmatch⟩ | ⟨k, taken, htakes, hmatch⟩
  · rcases wordMatch_longest haccept' text with ⟨-, hmatch'⟩ | ⟨j, others, htakes', -⟩
    · rw [hmatch, hmatch']
    · have hj := (hagree j others htakes'.isPrefix htakes'.spells).2 htakes'.mem
      exact absurd htakes'.spells (hnone j hj others htakes'.isPrefix)
  · have hk := htakes.of_agreeAt hagree
    rcases wordMatch_longest haccept' text with ⟨hnone', -⟩ | ⟨j, others, htakes', hmatch'⟩
    · exact absurd hk.spells (hnone' k hk.mem taken hk.isPrefix)
    · obtain ⟨rfl, rfl⟩ := htakes'.unique haccept' hk
      rw [hmatch, hmatch']

end Vocabulary

theorem agreeAt_of_not_standsAt {version : String} {front back : List Keyword} {e : Keyword} {source text : List Char}
    {offset : Nat} (hat : dropBytes? offset source = some text) (habsent : ¬e.StandsAt source offset) :
    Vocabulary.AgreeAt ⟨version, front ++ back⟩ ⟨version, front ++ e :: back⟩ text := by
  intro k taken htaken hspells
  have hne : k ≠ e := by
    rintro rfl
    exact habsent (hspells.standsAt hat htaken)
  simp only [List.mem_append, List.mem_cons, hne, false_or]

theorem Scan.exists_tokens_subset (offset : Nat) (leading : List Trivia) (p : Piece) (rest : List Piece) :
    ∃ taken, ∀ t ∈ (ofPieces (offset + byteLength p.text) taken rest).tokens,
      t ∈ (ofPieces offset leading (p :: rest)).tokens := by
  cases p with
  | trivia kind text => exact ⟨_, fun t ht => ht⟩
  | unknown ch => exact ⟨_, fun t ht => ht⟩
  | unterminated form text => exact ⟨_, fun t ht => ht⟩
  | token kind text => exact ⟨[], fun t ht => List.mem_cons_of_mem _ ht⟩
  | words m => exact ⟨[], fun t ht => List.mem_cons_of_mem _ ht⟩

theorem pieces_eq_of_wordMatch_eq {v v' : Vocabulary} (text before : List Char) {leading : List Trivia}
    (h : ∀ t ∈ (Scan.ofPieces (byteLength before) leading (pieces v text)).tokens, ∀ after,
      dropBytes? t.span.start (before ++ text) = some after → v'.wordMatch after = v.wordMatch after) :
    pieces v' text = pieces v text := by
  -- along the pieces under `v`; only where words are read does the vocabulary have a part
  fun_induction pieces v text generalizing before leading with
  | case1 => rw [pieces]
  | case2 c rest ih =>
    have hfront : frontPiece v' c rest = frontPiece v c rest := by
      by_cases hwords : isWordStart c = true ∧ startsRemark (c :: rest) = false
      · obtain ⟨hstart, hremark⟩ := hwords
        have hpiece := frontPiece_word v hstart hremark
        rw [hpiece] at h
        have hmatch := h _ List.mem_cons_self (c :: rest) (dropBytes?_append before (c :: rest))
        rw [hpiece, frontPiece_word v' hstart hremark, hmatch]
      · exact frontPiece_eq_of_not_words v' v hwords
    have htext := text_append_frontPiece v c rest
    obtain ⟨taken, hsubset⟩ := Scan.exists_tokens_subset (byteLength before) leading (frontPiece v c rest).1
      (pieces v (frontPiece v c rest).2)
    rw [← byteLength_append] at hsubset
    have hrest : pieces v' (frontPiece v c rest).2 = pieces v (frontPiece v c rest).2 := by
      refine ih (before ++ (frontPiece v c rest).1.text) fun t ht after hafter => h t (hsubset t ht) after ?_
      rwa [List.append_assoc, htext] at hafter
    rw [pieces, hfront, hrest]

/-- A table with one more keyword resolves the words at an offset as before unless they start with those of the new
keyword, and a script in which no token starts with them has the same scan and the same tree with the same problems. -/
theorem readScript_extended {version : String} {front back : List Keyword} {e : Keyword} {v v' : Vocabulary}
    (haccept : Vocabulary.accept ⟨version, front ++ back⟩ = .ok v)
    (haccept' : Vocabulary.accept ⟨version, front ++ e :: back⟩ = .ok v') (source : List Char) :
    (∀ offset, ¬e.StandsAt source offset → tokenAt? v' source offset = tokenAt? v source offset) ∧
      ((∀ t ∈ (scan v source).tokens, ¬e.StandsAt source t.span.start) →
        scan v' source = scan v source ∧ ∀ limit, readScript v' limit source = readScript v limit source) := by
  have hmatch : ∀ offset text, ¬e.StandsAt source offset → dropBytes? offset source = some text →
      v'.wordMatch text = v.wordMatch text := by
    intro offset text habsent hat
    exact (Vocabulary.wordMatch_of_agreeAt haccept haccept' (agreeAt_of_not_standsAt hat habsent)).symm
  constructor
  · intro offset habsent
    rw [tokenAt?, tokenAt?]
    cases hat : dropBytes? offset source with
    | none => rfl
    | some text => rw [Option.map_some, Option.map_some, hmatch offset text habsent hat]
  · intro habsent
    have hpieces : pieces v' source = pieces v source :=
      pieces_eq_of_wordMatch_eq source [] fun t ht after hat => hmatch t.span.start after (habsent t ht) hat
    have hscan : scan v' source = scan v source := by
      rw [scan_eq_ofPieces, scan_eq_ofPieces, hpieces]
    refine ⟨hscan, fun limit => ?_⟩
    rw [readScript, readScript, hscan]

/-- A new keyword of three words, of which the first two occur, with another keyword among them. -/
theorem left_outer_without_join :
    let left : Keyword := ⟨"left", .script, .clause, true⟩
    let leftJoin : Keyword := ⟨"left join", .script, .leader, false⟩
    let leftOuterJoin : Keyword := ⟨"left outer join", .script, .leader, false⟩
    let v := Vocabulary.ofTable ⟨"1", [left] ++ [leftJoin]⟩
    let v' := Vocabulary.ofTable ⟨"1", [left] ++ leftOuterJoin :: [leftJoin]⟩
    let source := "LEFT /* all */ outer; Left Join x".toList
    Vocabulary.accept ⟨"1", [left] ++ [leftJoin]⟩ = .ok v ∧
      Vocabulary.accept ⟨"1", [left] ++ leftOuterJoin :: [leftJoin]⟩ = .ok v' ∧ v.maxWords < v'.maxWords ∧
      ¬leftOuterJoin.StandsAt source 0 ∧ tokenAt? v' source 0 = tokenAt? v source 0 ∧
      (∀ t ∈ (scan v source).tokens, ¬leftOuterJoin.StandsAt source t.span.start) ∧
      scan v' source = scan v source ∧ readScript v' 8 source = readScript v 8 source := by
  intro left leftJoin leftOuterJoin v v' source
  have haccept : Vocabulary.accept ⟨"1", [left] ++ [leftJoin]⟩ = .ok v :=
    Vocabulary.accept_of_fault? (by decide +kernel)
  have haccept' : Vocabulary.accept ⟨"1", [left] ++ leftOuterJoin :: [leftJoin]⟩ = .ok v' :=
    Vocabulary.accept_of_fault? (by decide +kernel)
  have habsent : ¬leftOuterJoin.StandsAt source 0 := by decide +kernel
  have hunused : ∀ t ∈ (scan v source).tokens, ¬leftOuterJoin.StandsAt source t.span.start := by decide +kernel
  obtain ⟨htoken, hread⟩ := readScript_extended haccept haccept' source
  obtain ⟨hscan, hreading⟩ := hread hunused
  exact ⟨haccept, haccept', by decide +kernel, habsent, htoken 0 habsent, hunused, hscan, hreading 8⟩

end LoadScript
