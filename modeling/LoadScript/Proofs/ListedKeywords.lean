import LoadScript.Proofs.Scan.LongestMatch
import LoadScript.Proofs.Scan.MaximalMunch

set_option autoImplicit false
set_option relaxedAutoImplicit false

namespace LoadScript

open Text Unicode

def spaced (words : List (List Char)) : List Char :=
  words.flatMap fun w => ' ' :: w

def LaterWord.spaced (word : List Char) : LaterWord :=
  ⟨[⟨.whitespace, [' ']⟩], word⟩

theorem joinWords_cons (first : List Char) (later : List (List Char)) :
    joinWords (first :: later) = first ++ spaced later := by
  induction later generalizing first with
  | nil => simp [joinWords, spaced]
  | cons w rest ih =>
    have hrest : joinWords (first :: w :: rest) = first ++ ' ' :: joinWords (w :: rest) := by
      simp [joinWords, List.intercalate]
    rw [hrest, ih, spaced, spaced, List.flatMap_cons, List.cons_append]

theorem head?_spaced (words : List (List Char)) : ∀ c ∈ (spaced words).head?, c = ' ' := by
  cases words with
  | nil => exact fun c hc => absurd hc.symm (Option.some_ne_none c)
  | cons w rest => exact fun c hc => (Option.some.inj hc).symm

section WholeWords

variable {word : List Char} (hword : isWholeWord word = true)

include hword

theorem exists_cons_of_isWholeWord : ∃ c more, word = c :: more ∧ isWordStart c = true := by
  refine exists_cons_of_frontWord_ne_nil ?_
  rw [frontWord_of_isWholeWord hword]
  rintro rfl
  exact Bool.false_ne_true hword

theorem isWordPart_of_isWholeWord : ∀ c ∈ word, isWordPart c = true := by
  intro c hc
  rw [← frontWord_of_isWholeWord hword] at hc
  exact isWordPart_of_mem_frontWord hc

theorem frontWord_append_of_head? {back : List Char} (hback : ∀ c ∈ back.head?, isWordPart c = false) :
    frontWord (word ++ back) = word ∧ afterWord (word ++ back) = back := by
  obtain ⟨c, more, rfl, hc⟩ := exists_cons_of_isWholeWord hword
  have hmore : ∀ d ∈ more, isWordPart d = true :=
    fun d hd => isWordPart_of_isWholeWord hword d (List.mem_cons_of_mem c hd)
  obtain ⟨htake, hdrop⟩ := takeWhile_append_of_head? hmore hback
  rw [List.cons_append, frontWord, afterWord, if_pos hc, if_pos hc, htake, hdrop]
  exact ⟨rfl, rfl⟩

theorem frontWord_append_spaced (words : List (List Char)) :
    frontWord (word ++ spaced words) = word ∧ afterWord (word ++ spaced words) = spaced words := by
  refine frontWord_append_of_head? hword fun c hc => ?_
  rw [head?_spaced words c hc]
  exact isWordPart_eq_false_of_isWhiteSpace (by decide)

theorem gap_space_append (back : List Char) :
    gap (' ' :: (word ++ back)) = ([⟨.whitespace, [' ']⟩], word ++ back) := by
  obtain ⟨c, more, rfl, hc⟩ := exists_cons_of_isWholeWord hword
  have hspace := isWhiteSpace_eq_false_of_isWordStart hc
  have hpiece : gapPiece? (' ' :: (c :: more ++ back)) = some (⟨.whitespace, [' ']⟩, c :: more ++ back) := by
    have hblank : isWhiteSpace ' ' = true := by decide
    rw [gapPiece?, if_pos hblank, List.cons_append, List.takeWhile_cons, List.dropWhile_cons, hspace]
    rfl
  rw [gap, hpiece]
  simp only [List.cons_append, gap_of_isWordStart hc]

end WholeWords

theorem laterWords_spaced {words : List (List Char)} (h : ∀ w ∈ words, isWholeWord w = true) :
    laterWords (spaced words) = words.map LaterWord.spaced := by
  induction words with
  | nil =>
    have hgap : gap [] = ([], []) := by rw [gap, gapPiece?]
    rw [spaced, List.flatMap_nil, laterWords, hgap]
    rfl
  | cons w rest ih =>
    obtain ⟨hw, hrest⟩ := List.forall_mem_cons.1 h
    obtain ⟨hfront, hafter⟩ := frontWord_append_spaced hw rest
    have hgap : gap (spaced (w :: rest)) = ([⟨.whitespace, [' ']⟩], w ++ spaced rest) := gap_space_append hw _
    have hne : w ≠ [] := by
      obtain ⟨c, more, rfl, -⟩ := exists_cons_of_isWholeWord hw
      exact List.cons_ne_nil c more
    rw [laterWords, hgap]
    simp only [hfront, hafter, hne, ih hrest]
    rfl

theorem innerComments_spaced (offset : Nat) (words : List (List Char)) :
    innerComments offset (words.map LaterWord.spaced) = [] := by
  induction words generalizing offset with
  | nil => rfl
  | cons w rest ih => exact ih _

theorem flatMap_text_spaced (words : List (List Char)) :
    (words.map LaterWord.spaced).flatMap LaterWord.text = spaced words := by
  rw [List.flatMap_map]
  rfl

/-- Holds of a keyword of several words of which the first is the word that starts a remark, in any case. -/
def Keyword.StartsRemark (k : Keyword) : Prop :=
  ∃ first second more, k.words = first :: second :: more ∧ first.map Char.toLower = remarkWord

theorem isWholeWord_of_remarkWord {word : List Char} (h : word.map Char.toLower = remarkWord) :
    isWholeWord word = true := by
  have hlower : isWholeWord (lowered word) = isWholeWord word := by
    rw [isWholeWord, isWholeWord, afterWord_lowered, isEmpty_lowered, isEmpty_lowered]
  have hremark : lowered word = remarkWord := h
  rw [← hlower, hremark]
  decide

/-- Whole words with spaces between them open a remark if they are several and the first is the word of a remark. -/
theorem opensRemark_spaced_iff {first : List Char} (hfirst : isWholeWord first = true) (later : List (List Char)) :
    OpensRemark (first ++ spaced later) ↔ later ≠ [] ∧ first.map Char.toLower = remarkWord := by
  constructor
  · rintro ⟨word, blank, back, hsplit, hword, hblank⟩
    have hend : ∀ c ∈ (blank :: back).head?, isWordPart c = false := by
      rintro c hc
      rw [← Option.some.inj hc]
      exact isWordPart_eq_false_of_isWhiteSpace hblank
    obtain ⟨hfront, hafter⟩ := frontWord_append_of_head? (isWholeWord_of_remarkWord hword) hend
    obtain ⟨hfront', hafter'⟩ := frontWord_append_spaced hfirst later
    rw [hsplit] at hfront' hafter'
    refine ⟨?_, by rw [← hword, ← hfront, hfront']⟩
    rintro rfl
    exact List.cons_ne_nil blank back (hafter.symm.trans hafter')
  · rintro ⟨hlater, hword⟩
    obtain ⟨w, more, rfl⟩ := List.exists_cons_of_ne_nil hlater
    exact ⟨first, ' ', w ++ spaced more, rfl, hword, by decide⟩

theorem pieces_word (v : Vocabulary) {text : List Char} (hword : frontWord text ≠ [])
    (hremark : startsRemark text = false) : pieces v text =
      .words (v.wordMatch text) :: pieces v (text.drop (v.wordMatch text).text.length) := by
  obtain ⟨c, rest, rfl, hc⟩ := exists_cons_of_frontWord_ne_nil hword
  rw [pieces, frontPiece_word v hc hremark]

theorem pieces_openRemark (v : Vocabulary) {text : List Char} (hremark : startsRemark text = true)
    (hclosing : ';' ∉ text) : pieces v text = [.unterminated .remComment text] := by
  have hword : frontWord text ≠ [] := by
    intro hnil
    have hlower := lowercase_frontWord_of_startsRemark hremark
    rw [hnil] at hlower
    exact absurd hlower (by decide)
  obtain ⟨c, rest, rfl, hc⟩ := exists_cons_of_frontWord_ne_nil hword
  have hnone : throughChar? ';' (c :: rest) = none := by
    refine Option.eq_none_iff_forall_ne_some.2 fun found hfound => hclosing ?_
    obtain ⟨body, hbody, -⟩ := isDelimited_of_throughChar? hfound
    rw [← append_of_throughChar? hfound, hbody]
    simp
  have hfront : frontPiece v c rest = (.unterminated .remComment (c :: rest), []) := by
    simp only [frontPiece, Lead.of_eq_word hc, hremark, hnone, closed]
    rfl
  rw [pieces, hfront, pieces]

section Accepted

variable {table : KeywordTable} {v : Vocabulary} (haccept : Vocabulary.accept table = .ok v) {k : Keyword}
  (hk : k ∈ table.keywords) {first : List Char} {later : List (List Char)} (hwords : k.words = first :: later)

include haccept hk hwords

theorem isWholeWord_of_accept : isWholeWord first = true ∧ ∀ w ∈ later, isWholeWord w = true := by
  have hwhole := ((Vocabulary.accept_eq_ok haccept).2 k hk).isWholeWord_of_mem
  rw [hwords] at hwhole
  exact List.forall_mem_cons.1 hwhole

theorem wordMatch_spaced : v.wordMatch (first ++ spaced later) =
    ⟨k.tokenKind, some k.canonical, first, later.map LaterWord.spaced⟩ := by
  obtain ⟨hfirst, hlater⟩ := isWholeWord_of_accept haccept hk hwords
  obtain ⟨hfront, hafter⟩ := frontWord_append_spaced hfirst later
  have hahead : laterWords (afterWord (first ++ spaced later)) = later.map LaterWord.spaced := by
    rw [hafter, laterWords_spaced hlater]
  have hspells : k.Spells (frontWord (first ++ spaced later) ::
      (later.map LaterWord.spaced).map LaterWord.word) := by
    have hsame : (later.map LaterWord.spaced).map LaterWord.word = later := by
      rw [List.map_map]
      exact List.map_id later
    rw [hfront, hsame, Keyword.Spells, hwords]
  have hbegins : later.map LaterWord.spaced <+: laterWords (afterWord (first ++ spaced later)) :=
    ⟨[], by rw [hahead, List.append_nil]⟩
  rcases Vocabulary.wordMatch_longest haccept (first ++ spaced later) with ⟨hnone, -⟩ | ⟨j, taken, htakes, hmatch⟩
  · exact absurd hspells (hnone k hk _ hbegins)
  · have htaken : taken = later.map LaterWord.spaced := by
      have hle := htakes.length_le k hk _ hbegins hspells
      have hall := htakes.isPrefix
      rw [hahead] at hall
      exact hall.eq_of_length_le hle
    have hjspells := htakes.spells
    rw [htaken] at hjspells hmatch
    obtain rfl := Vocabulary.spells_unique haccept htakes.mem hk hjspells hspells
    -- what follows the first word is a space or nothing, so the keyword is not the name of a function here
    have hcall : (afterWord (first ++ spaced later)).head? ≠ some '(' := by
      intro hparenthesis
      rw [hafter] at hparenthesis
      exact absurd (head?_spaced later _ hparenthesis) (by decide)
    rw [hmatch, if_neg fun h => hcall h.2.2, hfront]

theorem scan_spaced (hremark : ¬OpensRemark (first ++ spaced later)) : scan v (first ++ spaced later) =
    ⟨[⟨k.tokenKind, String.ofList (first ++ spaced later), spanFrom 0 (first ++ spaced later), [], [],
      some k.canonical⟩], [], []⟩ := by
  have hmatch := wordMatch_spaced haccept hk hwords
  have htext : (v.wordMatch (first ++ spaced later)).text = first ++ spaced later := by
    rw [hmatch, WordMatch.text, flatMap_text_spaced]
  have hfront : frontWord (first ++ spaced later) ≠ [] := by
    obtain ⟨hfirst, -⟩ := isWholeWord_of_accept haccept hk hwords
    obtain ⟨c, more, hcons, -⟩ := exists_cons_of_isWholeWord hfirst
    rw [(frontWord_append_spaced hfirst later).1, hcons]
    exact List.cons_ne_nil c more
  have hpieces := pieces_word v hfront (Bool.eq_false_iff.2 (mt (startsRemark_iff _).1 hremark))
  rw [htext, List.drop_length, pieces, hmatch] at hpieces
  rw [scan_eq_ofPieces, hpieces]
  rw [hmatch] at htext
  simp only [Scan.ofPieces, WordMatch.token, htext, innerComments_spaced]
  rfl

theorem scan_spaced_remark (hremark : OpensRemark (first ++ spaced later)) : scan v (first ++ spaced later) =
    ⟨[], [⟨.skipped, String.ofList (first ++ spaced later), spanFrom 0 (first ++ spaced later)⟩],
      [.unterminated .remComment 0]⟩ := by
  obtain ⟨hfirst, hlater⟩ := isWholeWord_of_accept haccept hk hwords
  have hword : ∀ w, isWholeWord w = true → ';' ∉ w := by
    intro w hw hmem
    have hpart := isWordPart_of_isWholeWord hw ';' hmem
    rw [(classes_of_mem_marks (by decide)).1] at hpart
    exact Bool.false_ne_true hpart
  have hclosing : ';' ∉ first ++ spaced later := by
    intro hmem
    rcases List.mem_append.1 hmem with hmem | hmem
    · exact hword first hfirst hmem
    · obtain ⟨w, hw, hmem⟩ := List.mem_flatMap.1 hmem
      exact hword w (hlater w hw) ((List.mem_cons.1 hmem).resolve_left (by decide))
  rw [scan_eq_ofPieces, pieces_openRemark v ((startsRemark_iff _).2 hremark) hclosing]
  rfl

end Accepted

/-- The words of a listed keyword are scanned as one token that carries it, unless they open a remark; then they are
an open remark and no token. -/
theorem scan_listed_keyword {table : KeywordTable} {v : Vocabulary} (haccept : Vocabulary.accept table = .ok v)
    {k : Keyword} (hk : k ∈ table.keywords) :
    (¬k.StartsRemark → scan v (joinWords k.words) =
      ⟨[⟨if k.tier = .logical then .operator .logical else .keyword k.tier k.role, String.ofList (joinWords k.words),
        spanFrom 0 (joinWords k.words), [], [], some k.canonical⟩], [], []⟩) ∧
    (k.StartsRemark → scan v (joinWords k.words) =
      ⟨[], [⟨.skipped, String.ofList (joinWords k.words), spanFrom 0 (joinWords k.words)⟩],
        [.unterminated .remComment 0]⟩) := by
  obtain ⟨first, later, hwords⟩ :=
    List.exists_cons_of_ne_nil ((Vocabulary.accept_eq_ok haccept).2 k hk).words_ne_nil
  have hopens : k.StartsRemark ↔ OpensRemark (first ++ spaced later) := by
    rw [opensRemark_spaced_iff (isWholeWord_of_accept haccept hk hwords).1, Keyword.StartsRemark, hwords]
    cases later <;> simp
  rw [hopens, hwords, joinWords_cons, ← k.tokenKind_eq_ite]
  exact ⟨scan_spaced haccept hk hwords, scan_spaced_remark haccept hk hwords⟩

/-- A table in which the word of a remark is the first word of a keyword and the last word of another one. -/
def remarkTable : KeywordTable :=
  ⟨"1", [⟨"rem x", .script, .leader, false⟩, ⟨"end  Rem", .control, .clause, true⟩]⟩

theorem accept_remarkTable : Vocabulary.accept remarkTable = .ok (.ofTable remarkTable) :=
  Vocabulary.accept_of_fault? (by decide +kernel)

theorem end_rem_recognised :
    let k : Keyword := ⟨"end  Rem", .control, .clause, true⟩
    let shadowed : Keyword := ⟨"rem x", .script, .leader, false⟩
    Vocabulary.accept remarkTable = .ok (.ofTable remarkTable) ∧ k ∈ remarkTable.keywords ∧ ¬k.StartsRemark ∧
      scan (.ofTable remarkTable) "end Rem".toList =
        ⟨[⟨.keyword .control .clause, "end Rem", ⟨0, 7⟩, [], [], some "END REM"⟩], [], []⟩ ∧
      shadowed ∈ remarkTable.keywords ∧ shadowed.StartsRemark ∧
      scan (.ofTable remarkTable) "rem x".toList =
        ⟨[], [⟨.skipped, "rem x", ⟨0, 5⟩⟩], [.unterminated .remComment 0]⟩ := by
  intro k shadowed
  have hk : k ∈ remarkTable.keywords := by decide
  have hshadowed : shadowed ∈ remarkTable.keywords := by decide
  have hwords : k.words = ["end".toList, "Rem".toList] := by decide +kernel
  have hstarts : ¬k.StartsRemark := by
    rintro ⟨first, second, more, hsplit, hremark⟩
    rw [hwords] at hsplit
    rw [← (List.cons.inj hsplit).1] at hremark
    exact absurd hremark (by decide)
  have hcanonical : k.canonical = "END REM" := by decide +kernel
  have hscan := (scan_listed_keyword accept_remarkTable hk).1 hstarts
  rw [hwords, hcanonical] at hscan
  have hwords' : shadowed.words = ["rem".toList, "x".toList] := by decide +kernel
  have hstarts' : shadowed.StartsRemark := ⟨_, _, _, hwords', by decide⟩
  have hscan' := (scan_listed_keyword accept_remarkTable hshadowed).2 hstarts'
  rw [hwords'] at hscan'
  exact ⟨accept_remarkTable, hk, hstarts, hscan, hshadowed, hstarts', hscan'⟩

/-- A keyword that starts like a remark is accepted but never recognised. -/
theorem rem_x_not_recognised :
    let k : Keyword := ⟨"rem x", .script, .leader, false⟩
    Vocabulary.accept remarkTable = .ok (.ofTable remarkTable) ∧ k ∈ remarkTable.keywords ∧
      joinWords k.words = "rem x".toList ∧ (scan (.ofTable remarkTable) (joinWords k.words)).tokens = [] ∧
      (scan (.ofTable remarkTable) (joinWords k.words)).problems ≠ [] :=
  ⟨accept_remarkTable, by decide, by decide +kernel, by decide +kernel, by decide +kernel⟩

end LoadScript
