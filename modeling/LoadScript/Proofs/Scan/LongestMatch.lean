import LoadScript.Proofs.Scan.AcceptedWords
import LoadScript.Proofs.Scan.Tiling
import LoadScript.Proofs.Vocabulary.Entries

/-!
The words at an offset resolve to the longest keyword that they start with. Words are looked at only as long as
they open some keyword, and only so many of them as the longest keyword has; none of the words of a keyword is
missed by this, so the match is the longest one among all words that follow.
-/

set_option autoImplicit false
set_option relaxedAutoImplicit false

namespace LoadScript

open Text Unicode

structure PlacedWord where
  word : List Char
  span : Span
  comments : List Trivia

def placeWords (offset : Nat) : List LaterWord → List PlacedWord
  | [] => []
  | w :: rest =>
    let start := offset + byteLength (w.filler.flatMap Filler.text)
    ⟨w.word, spanFrom start w.word, (placeFiller offset w.filler).filter Trivia.isComment⟩ ::
      placeWords (start + byteLength w.word) rest

def placeRun (offset : Nat) (first : List Char) (later : List LaterWord) : List PlacedWord :=
  ⟨first, spanFrom offset first, []⟩ :: placeWords (offset + byteLength first) later

/-- The words of a text that starts with a word at an offset: this word and all words that follow with only white
space and complete comments between them. -/
def wordRun (offset : Nat) (text : List Char) : List PlacedWord :=
  placeRun offset (frontWord text) (laterWords (afterWord text))

/-- Holds of a keyword and the words at the front of a run that spell it, if no more words at its front spell
another keyword. -/
structure IsLongest (table : KeywordTable) (run : List PlacedWord) (k : Keyword)
    (matched : List PlacedWord) : Prop where
  mem : k ∈ table.keywords
  isPrefix : matched <+: run
  spells : k.Spells (matched.map PlacedWord.word)
  unique : ∀ j ∈ table.keywords, j.Spells (matched.map PlacedWord.word) → j = k
  length_le : ∀ j ∈ table.keywords, ∀ others, others <+: run → j.Spells (others.map PlacedWord.word) →
    others.length ≤ matched.length

/-- Holds if a keyword of one word is the name of a function in front of a text. -/
def Keyword.IsCalled (k : Keyword) (matched : List PlacedWord) (after : List Char) : Prop :=
  matched.length = 1 ∧ k.callable = true ∧ after.head? = some '('

/-- The tokens that the words at the front of a text at an offset may become. -/
inductive Resolves (table : KeywordTable) (offset : Nat) (text : List Char) : Token → Prop
  | unlisted :
    (∀ k ∈ table.keywords, ∀ words, words <+: wordRun offset text →
      ¬k.Spells (words.map PlacedWord.word)) →
    Resolves table offset text ⟨.identifier, String.ofList (frontWord text),
      spanFrom offset (frontWord text), [], [], none⟩
  /-- A single word is a keyword, but here it is the name of a function. -/
  | called {k : Keyword} {matched : List PlacedWord} :
    IsLongest table (wordRun offset text) k matched → k.IsCalled matched (afterWord text) →
    Resolves table offset text ⟨.identifier, String.ofList (frontWord text),
      spanFrom offset (frontWord text), [], [], none⟩
  | keyword {k : Keyword} {matched : List PlacedWord} {last : PlacedWord} {written : String} :
    IsLongest table (wordRun offset text) k matched → matched.getLast? = some last →
    ¬k.IsCalled matched (afterWord text) →
    Resolves table offset text
      ⟨if k.tier = .logical then .operator .logical else .keyword k.tier k.role, written,
        ⟨offset, last.span.stop⟩, [], matched.flatMap PlacedWord.comments, some k.canonical⟩

theorem map_word_placeWords (offset : Nat) (later : List LaterWord) :
    (placeWords offset later).map PlacedWord.word = later.map LaterWord.word := by
  induction later generalizing offset with
  | nil => rfl
  | cons w rest ih => rw [placeWords, List.map_cons, ih, List.map_cons]

theorem placeWords_isPrefix {taken later : List LaterWord} (h : taken <+: later) (offset : Nat) :
    placeWords offset taken <+: placeWords offset later := by
  induction taken generalizing offset later with
  | nil => exact List.nil_prefix
  | cons w rest ih =>
    obtain ⟨more, rfl⟩ := h
    exact List.cons_prefix_cons.2 ⟨rfl, ih (List.prefix_append rest more) _⟩

theorem flatMap_comments_placeWords (offset : Nat) (later : List LaterWord) :
    (placeWords offset later).flatMap PlacedWord.comments = innerComments offset later := by
  induction later generalizing offset with
  | nil => rfl
  | cons w rest ih =>
    rw [placeWords, List.flatMap_cons, ih, innerComments, w.byteLength_text, Nat.add_assoc]

theorem exists_getLast?_placeWords (offset : Nat) {later : List LaterWord} (h : later ≠ []) :
    ∃ last, (placeWords offset later).getLast? = some last ∧
      last.span.stop = offset + byteLength (later.flatMap LaterWord.text) := by
  induction later generalizing offset with
  | nil => exact absurd rfl h
  | cons w rest ih =>
    cases rest with
    | nil =>
      refine ⟨_, List.getLast?_singleton, ?_⟩
      rw [List.flatMap_singleton, w.byteLength_text, spanFrom, Nat.add_assoc]
    | cons u more =>
      obtain ⟨last, hlast, hstop⟩ :=
        ih (offset + byteLength (w.filler.flatMap Filler.text) + byteLength w.word) (List.cons_ne_nil u more)
      refine ⟨last, ?_, ?_⟩
      · rw [placeWords, placeWords, List.getLast?_cons_cons]
        exact hlast
      · have hsplit : byteLength ((w :: u :: more).flatMap LaterWord.text) =
            byteLength w.text + byteLength ((u :: more).flatMap LaterWord.text) := by
          rw [List.flatMap_cons, byteLength_append]
        have hlength := w.byteLength_text
        omega

theorem map_word_placeRun (offset : Nat) (first : List Char) (later : List LaterWord) :
    (placeRun offset first later).map PlacedWord.word = first :: later.map LaterWord.word := by
  rw [placeRun, List.map_cons, map_word_placeWords]

theorem length_placeRun (offset : Nat) (first : List Char) (later : List LaterWord) :
    (placeRun offset first later).length = later.length + 1 := by
  have hlength := congrArg List.length (map_word_placeRun offset first later)
  rwa [List.length_map, List.length_cons, List.length_map] at hlength

theorem exists_getLast?_placeRun (offset : Nat) (first : List Char) (later : List LaterWord) :
    ∃ last, (placeRun offset first later).getLast? = some last ∧
      last.span.stop = offset + byteLength (first ++ later.flatMap LaterWord.text) := by
  cases later with
  | nil =>
    refine ⟨_, List.getLast?_singleton, ?_⟩
    rw [List.flatMap_nil, List.append_nil, spanFrom]
  | cons w rest =>
    obtain ⟨last, hlast, hstop⟩ :=
      exists_getLast?_placeWords (offset + byteLength first) (List.cons_ne_nil w rest)
    refine ⟨last, ?_, ?_⟩
    · rw [placeRun, placeWords, List.getLast?_cons_cons]
      exact hlast
    · rw [hstop, byteLength_append, Nat.add_assoc]

theorem flatMap_comments_placeRun (offset : Nat) (first : List Char) (later : List LaterWord) :
    (placeRun offset first later).flatMap PlacedWord.comments =
      innerComments (offset + byteLength first) later := by
  rw [placeRun, List.flatMap_cons, flatMap_comments_placeWords, List.nil_append]

theorem Keyword.tokenKind_eq_ite (k : Keyword) :
    k.tokenKind = if k.tier = .logical then .operator .logical else .keyword k.tier k.role := by
  rw [tokenKind]
  cases k.tier <;> rfl

theorem exists_of_isPrefix_wordRun {offset : Nat} {text : List Char} {words : List PlacedWord}
    (h : words <+: wordRun offset text) (hne : words ≠ []) :
    ∃ taken, taken <+: laterWords (afterWord text) ∧
      words.map PlacedWord.word = frontWord text :: taken.map LaterWord.word := by
  obtain ⟨w, rest, rfl⟩ := List.exists_cons_of_ne_nil hne
  obtain ⟨rfl, hrest⟩ := List.cons_prefix_cons.1 h
  have hwords := hrest.map PlacedWord.word
  rw [map_word_placeWords, List.prefix_iff_eq_take, ← List.map_take] at hwords
  refine ⟨_, List.take_prefix (rest.map PlacedWord.word).length _, ?_⟩
  rw [List.map_cons, ← hwords]

theorem exists_of_dropBytes? {offset : Nat} {source text : List Char}
    (h : dropBytes? offset source = some text) :
    ∃ before, source = before ++ text ∧ byteLength before = offset := by
  fun_induction dropBytes? offset source with
  | case1 source =>
    obtain rfl := Option.some.inj h
    exact ⟨[], rfl, rfl⟩
  | case2 offset => exact absurd h.symm (Option.some_ne_none text)
  | case3 offset c rest hfits ih =>
    obtain ⟨before, rfl, hlength⟩ := ih h
    refine ⟨c :: before, rfl, ?_⟩
    rw [byteLength, hlength]
    omega
  | case4 offset c rest hfits => exact absurd h.symm (Option.some_ne_none text)

namespace Vocabulary

theorem isPrefix_lookAhead {v : Vocabulary} {count : Nat} {seen : List (List Char)} {text : List Char}
    {taken : List LaterWord} (htaken : taken <+: laterWords text) (hcount : taken.length ≤ count)
    (hopening : ∀ n < taken.length,
      v.isOpening (seen ++ (taken.take n).map LaterWord.word) = true) :
    taken <+: v.lookAhead count seen text := by
  induction count generalizing seen text taken with
  | zero =>
    rw [List.eq_nil_of_length_eq_zero (Nat.le_zero.1 hcount)]
    exact List.nil_prefix
  | succ count ih =>
    cases taken with
    | nil => exact List.nil_prefix
    | cons w rest =>
      have hseen : v.isOpening seen = true := by
        have h := hopening 0 (Nat.succ_pos _)
        rwa [List.take_zero, List.map_nil, List.append_nil] at h
      obtain ⟨hword, rfl, hrest⟩ := cons_isPrefix_laterWords htaken
      have hnext : rest <+: v.lookAhead count (seen ++ [frontWord (gap text).2])
          (afterWord (gap text).2) := by
        refine ih hrest (Nat.le_of_succ_le_succ hcount) fun n hn => ?_
        have h := hopening (n + 1) (Nat.succ_lt_succ hn)
        rwa [List.take_succ_cons, List.map_cons, List.append_cons] at h
      have hempty : (frontWord (gap text).2).isEmpty = false := by simpa using hword
      simp only [lookAhead, hseen, hempty, if_true, Bool.false_eq_true, if_false]
      exact List.cons_prefix_cons.2 ⟨rfl, hnext⟩

/-- The search for the longest entry finds one at least as long as any that a front of the words spells. -/
theorem exists_longest? {v : Vocabulary} {first : List Char} {later taken : List LaterWord}
    {count : Nat} {entry : IndexEntry} (htaken : taken <+: later) (hcount : taken.length ≤ count)
    (hlater : count ≤ later.length)
    (hfind : v.find? (first :: taken.map LaterWord.word) = some entry) :
    ∃ longer found, v.longest? first later count = some (longer, found) ∧
      taken.length ≤ longer.length := by
  induction count with
  | zero =>
    obtain rfl : taken = [] := List.eq_nil_of_length_eq_zero (Nat.le_zero.1 hcount)
    have hfirst : v.find? [first] = some entry := hfind
    refine ⟨[], entry, ?_, hcount⟩
    rw [longest?, hfirst]
    rfl
  | succ count ih =>
    rw [longest?]
    split
    · next found hfound =>
      refine ⟨_, found, rfl, ?_⟩
      rw [List.length_take]
      omega
    · next hnone =>
      refine ih ?_ (Nat.le_of_succ_le hlater)
      have hne : taken.length ≠ count + 1 := by
        intro hlength
        rw [List.prefix_iff_eq_take.1 htaken, hlength, hnone] at hfind
        exact absurd hfind.symm (Option.some_ne_none entry)
      omega

/-- Holds of a keyword and the later words of a text that spell it behind the first word, if no more of them
spell another keyword. -/
structure Takes (table : KeywordTable) (text : List Char) (k : Keyword) (taken : List LaterWord) : Prop where
  mem : k ∈ table.keywords
  isPrefix : taken <+: laterWords (afterWord text)
  spells : k.Spells (frontWord text :: taken.map LaterWord.word)
  length_le : ∀ j ∈ table.keywords, ∀ others, others <+: laterWords (afterWord text) →
    j.Spells (frontWord text :: others.map LaterWord.word) → others.length ≤ taken.length

variable {table : KeywordTable} {v : Vocabulary} {text : List Char}

theorem isPrefix_lookAhead_of_spells (haccept : accept table = .ok v) {k : Keyword}
    (hk : k ∈ table.keywords) {taken : List LaterWord} (htaken : taken <+: laterWords (afterWord text))
    (h : k.Spells (frontWord text :: taken.map LaterWord.word)) :
    taken <+: v.lookAhead (v.maxWords - 1) [frontWord text] (afterWord text) := by
  have hlength := h.length_eq
  have hmax := length_le_maxWords haccept hk
  rw [List.length_cons, List.length_map] at hlength
  refine isPrefix_lookAhead htaken (by omega) fun n hn => ?_
  have hopening := isOpening_take_of_spells haccept hk h (Nat.succ_pos n) (by simpa using hn)
  rwa [List.take_succ_cons, ← List.map_take] at hopening

/-- What the front of a text is matched with, by the longest run of its words that spells a keyword. -/
theorem wordMatch_longest (haccept : accept table = .ok v) (text : List Char) :
    (∀ k ∈ table.keywords, ∀ taken, taken <+: laterWords (afterWord text) →
        ¬k.Spells (frontWord text :: taken.map LaterWord.word)) ∧
      v.wordMatch text = ⟨.identifier, none, frontWord text, []⟩ ∨
    ∃ k taken, Takes table text k taken ∧ v.wordMatch text =
      if taken = [] ∧ k.callable = true ∧ (afterWord text).head? = some '(' then
        ⟨.identifier, none, frontWord text, []⟩
      else ⟨k.tokenKind, some k.canonical, frontWord text, taken⟩ := by
  -- all the words of a keyword are looked at, so the search finds an entry at least as long
  have hsearch : ∀ j ∈ table.keywords, ∀ others, others <+: laterWords (afterWord text) →
      j.Spells (frontWord text :: others.map LaterWord.word) →
      ∃ longer found, v.longest? (frontWord text)
          (v.lookAhead (v.maxWords - 1) [frontWord text] (afterWord text))
          (v.lookAhead (v.maxWords - 1) [frontWord text] (afterWord text)).length =
        some (longer, found) ∧ others.length ≤ longer.length := by
    intro j hj others hothers hspells
    have hahead := isPrefix_lookAhead_of_spells haccept hj hothers hspells
    exact exists_longest? hahead hahead.length_le (Nat.le_refl _) (find?_of_spells haccept hj hspells)
  unfold wordMatch
  dsimp only
  split
  · next hnone =>
    refine Or.inl ⟨?_, rfl⟩
    intro k hk taken htaken hspells
    obtain ⟨longer, found, hfound, -⟩ := hsearch k hk taken htaken hspells
    rw [hnone] at hfound
    exact absurd hfound.symm (Option.some_ne_none _)
  · next taken entry hsome =>
    obtain ⟨htaken, hfind⟩ := longest?_eq_some hsome
    have hprefix := htaken.trans (lookAhead_isPrefix v _ _ _)
    obtain ⟨k, hk, hspells, rfl⟩ := spells_of_find? haccept (space_not_mem_of_isPrefix hprefix) hfind
    refine Or.inr ⟨k, taken, ⟨hk, hprefix, hspells, ?_⟩, ?_⟩
    · intro j hj others hothers hjspells
      obtain ⟨longer, found, hfound, hle⟩ := hsearch j hj others hothers hjspells
      rw [hsome] at hfound
      obtain ⟨rfl, -⟩ := Prod.mk.inj (Option.some.inj hfound)
      exact hle
    · simp only [List.isEmpty_iff]

theorem ne_nil_of_spells (haccept : accept table = .ok v) {k : Keyword} (hk : k ∈ table.keywords)
    {words : List PlacedWord} (h : k.Spells (words.map PlacedWord.word)) : words ≠ [] := by
  rintro rfl
  have hwords := List.length_pos_iff.2 ((accept_eq_ok haccept).2 k hk).words_ne_nil
  rw [h.length_eq] at hwords
  exact Nat.lt_irrefl 0 hwords

theorem Takes.isLongest (haccept : accept table = .ok v) {k : Keyword} {taken : List LaterWord}
    (h : Takes table text k taken) (offset : Nat) :
    IsLongest table (wordRun offset text) k (placeRun offset (frontWord text) taken) where
  mem := h.mem
  isPrefix := List.cons_prefix_cons.2 ⟨rfl, placeWords_isPrefix h.isPrefix _⟩
  spells := by
    rw [map_word_placeRun]
    exact h.spells
  unique := by
    intro j hj hspells
    rw [map_word_placeRun] at hspells
    exact spells_unique haccept hj h.mem hspells h.spells
  length_le := by
    intro j hj others hothers hspells
    obtain ⟨more, hmore, hsame⟩ := exists_of_isPrefix_wordRun hothers (ne_nil_of_spells haccept hj hspells)
    rw [hsame] at hspells
    have hle := h.length_le j hj more hmore hspells
    have hlength := congrArg List.length hsame
    rw [List.length_map, List.length_cons, List.length_map] at hlength
    rw [length_placeRun]
    omega

theorem resolves_wordMatch (haccept : accept table = .ok v) (offset : Nat) (text : List Char) :
    Resolves table offset text ((v.wordMatch text).token offset []) := by
  have hname : (WordMatch.mk .identifier none (frontWord text) []).token offset [] =
      ⟨.identifier, String.ofList (frontWord text), spanFrom offset (frontWord text), [], [], none⟩ := by
    simp [WordMatch.token, WordMatch.text, innerComments]
  rcases wordMatch_longest haccept text with ⟨hnone, hmatch⟩ | ⟨k, taken, htakes, hmatch⟩
  · rw [hmatch, hname]
    refine .unlisted fun k hk words hwords hspells => ?_
    obtain ⟨taken, htaken, hsame⟩ := exists_of_isPrefix_wordRun hwords (ne_nil_of_spells haccept hk hspells)
    rw [hsame] at hspells
    exact hnone k hk taken htaken hspells
  · have hlongest := htakes.isLongest haccept offset
    have hcalled : k.IsCalled (placeRun offset (frontWord text) taken) (afterWord text) ↔
        taken = [] ∧ k.callable = true ∧ (afterWord text).head? = some '(' := by
      rw [Keyword.IsCalled, length_placeRun, Nat.add_eq_right, List.length_eq_zero_iff]
    rw [hmatch]
    split
    · next hcall =>
      rw [hname]
      exact .called hlongest (hcalled.2 hcall)
    · next hcall =>
      obtain ⟨last, hlast, hstop⟩ := exists_getLast?_placeRun offset (frontWord text) taken
      have hspan : spanFrom offset (frontWord text ++ taken.flatMap LaterWord.text) =
          ⟨offset, last.span.stop⟩ := by
        rw [hstop]
        rfl
      have htoken : (WordMatch.mk k.tokenKind (some k.canonical) (frontWord text) taken).token offset [] =
          ⟨if k.tier = .logical then .operator .logical else .keyword k.tier k.role,
            String.ofList (frontWord text ++ taken.flatMap LaterWord.text), ⟨offset, last.span.stop⟩, [],
            (placeRun offset (frontWord text) taken).flatMap PlacedWord.comments, some k.canonical⟩ := by
        rw [← hspan, ← k.tokenKind_eq_ite, flatMap_comments_placeRun]
        rfl
      rw [htoken]
      exact .keyword hlongest hlast (mt hcalled.1 hcall)

end Vocabulary

/-- The words at an offset resolve to the longest keyword that they start with. -/
theorem tokenAt?_resolves {table : KeywordTable} {v : Vocabulary}
    (haccept : Vocabulary.accept table = .ok v) {source : List Char} {offset : Nat} {text : List Char}
    (hat : dropBytes? offset source = some text) (hword : frontWord text ≠ []) :
    ∃ token, tokenAt? v source offset = some token ∧ Resolves table offset text token ∧
      IsSlice source token.span token.text ∧ LiesInside source token.span token.inner := by
  obtain ⟨before, rfl, rfl⟩ := exists_of_dropBytes? hat
  obtain ⟨after, hafter⟩ := v.text_wordMatch_isPrefix text
  refine ⟨(v.wordMatch text).token (byteLength before) [], ?_, ?_, ?_, ?_⟩
  · rw [tokenAt?, hat, Option.map_some]
  · exact Vocabulary.resolves_wordMatch haccept (byteLength before) text
  · have hslice := isSlice_append before (v.wordMatch text).text after
    rwa [List.append_assoc, hafter] at hslice
  · have hinside := liesInside_inner_token (v.proper_wordMatch hword) before after []
    rwa [List.append_assoc, hafter] at hinside

/-- A table with a keyword of one word that is also a function, and a longer keyword that starts with it. -/
def leftJoinTable : KeywordTable :=
  ⟨"1", [⟨"left", .script, .clause, true⟩, ⟨"left join", .script, .leader, false⟩]⟩

theorem left_join_resolves :
    Vocabulary.accept leftJoinTable = .ok (.ofTable leftJoinTable) ∧
      dropBytes? 2 "; Left /* all */ Join (x)".toList = some "Left /* all */ Join (x)".toList ∧
      frontWord "Left /* all */ Join (x)".toList ≠ [] ∧
      ∃ token, tokenAt? (.ofTable leftJoinTable) "; Left /* all */ Join (x)".toList 2 = some token ∧
        Resolves leftJoinTable 2 "Left /* all */ Join (x)".toList token ∧
        IsSlice "; Left /* all */ Join (x)".toList token.span token.text ∧
        LiesInside "; Left /* all */ Join (x)".toList token.span token.inner := by
  have hfault : leftJoinTable.fault? = none := by decide +kernel
  have haccept : Vocabulary.accept leftJoinTable = .ok (.ofTable leftJoinTable) := by
    rw [Vocabulary.accept, hfault]
  have hat : dropBytes? 2 "; Left /* all */ Join (x)".toList = some "Left /* all */ Join (x)".toList := by
    decide +kernel
  have hword : frontWord "Left /* all */ Join (x)".toList ≠ [] := by decide +kernel
  exact ⟨haccept, hat, hword, tokenAt?_resolves haccept hat hword⟩

end LoadScript
