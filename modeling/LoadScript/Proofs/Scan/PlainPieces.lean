import LoadScript.Proofs.Scan.Pieces
import LoadScript.Proofs.Vocabulary.Lookup

/-!
Pieces under a vocabulary and pieces without any keyword. The words that a vocabulary puts into one piece are
read without it as a name each, with the gaps between them as trivia, and all other pieces are the same. The one
condition is that no keyword goes on with the word that starts a remark.
-/

set_option autoImplicit false
set_option relaxedAutoImplicit false

namespace LoadScript

open Text Unicode

def Vocabulary.empty : Vocabulary :=
  .ofTable ⟨"", []⟩

def WordMatch.name (word : List Char) : WordMatch :=
  ⟨.identifier, none, word, []⟩

@[simp]
theorem WordMatch.text_name (word : List Char) : (name word).text = word := by
  simp [name, text]

def Filler.piece (f : Filler) : Piece :=
  .trivia f.kind f.text

def LaterWord.plain (w : LaterWord) : List Piece :=
  w.filler.map Filler.piece ++ [.words (.name w.word)]

/-- A piece as it is read without keywords. -/
def Piece.plain : Piece → List Piece
  | .words m => .words (.name m.first) :: m.later.flatMap LaterWord.plain
  | p => [p]

theorem drop_of_append {front back text : List Char} (h : front ++ back = text) :
    text.drop front.length = back := by
  rw [← h, List.drop_left]

theorem frontPiece_eq_of_text {v : Vocabulary} {c : Char} {rest after : List Char} {p : Piece}
    (hp : (frontPiece v c rest).1 = p) (htext : p.text ++ after = c :: rest) :
    frontPiece v c rest = (p, after) := by
  have h := text_append_frontPiece v c rest
  rw [← htext, hp] at h
  exact Prod.ext hp (List.append_cancel_left h)

theorem frontPiece_of_gapPiece? (v : Vocabulary) {c : Char} {rest after : List Char} {f : Filler}
    (h : gapPiece? (c :: rest) = some (f, after)) : frontPiece v c rest = (f.piece, after) := by
  refine frontPiece_eq_of_text ?_ (append_of_gapPiece? h)
  rcases gapPiece?_eq_some h with ⟨hspace, rfl, -⟩ | ⟨hspace, hline, rfl, -⟩ |
    ⟨hspace, hline, hblock, body, hbody, rfl⟩
  · have hlead : Lead.of c rest.head? = .whitespace := by rw [Lead.of, if_pos hspace]
    simp only [frontPiece, hlead]
    rfl
  · have hlead : Lead.of c rest.head? = .lineComment := by
      rw [Lead.of, if_neg hspace, if_pos hline]
    simp only [frontPiece, hlead]
    rfl
  · have hlead : Lead.of c rest.head? = .blockComment := by
      rw [Lead.of, if_neg hspace, if_neg hline, if_pos hblock]
    simp only [frontPiece, hlead, hbody]
    rfl

theorem pieces_gap (v : Vocabulary) (text : List Char) :
    pieces v text = (gap text).1.map Filler.piece ++ pieces v (gap text).2 := by
  fun_induction gap text with
  | case1 text _ => rfl
  | case2 text f after h ih =>
    cases text with
    | nil => simp [gapPiece?] at h
    | cons c rest =>
      rw [pieces, frontPiece_of_gapPiece? v h, ih]
      rfl

theorem Lead.Announced.not_isWordStart {c : Char} {next : Option Char} {lead : Lead}
    (h : lead.Announced c next) (hlead : lead ≠ .word) : isWordStart c = false := by
  cases lead with
  | whitespace => exact isWordStart_eq_false_of_not_isWordPart (isWordPart_eq_false_of_isWhiteSpace h)
  | lineComment =>
    obtain ⟨rfl, -⟩ := h
    exact isWordStart_eq_false_of_mem_marks (by decide)
  | blockComment =>
    obtain ⟨rfl, -⟩ := h
    exact isWordStart_eq_false_of_mem_marks (by decide)
  | literal delimiter =>
    have hopening : ∃ d ∈ delimiter.opening.head?, d = c := by
      obtain ⟨back, hback⟩ := h
      cases delimiter <;> exact ⟨_, rfl, (List.cons.inj hback).1⟩
    obtain ⟨d, hd, rfl⟩ := hopening
    refine isWordStart_eq_false_of_mem_marks ?_
    cases delimiter <;> obtain rfl := Option.some.inj hd <;> decide
  | number => exact isWordStart_eq_false_of_isDigit h
  | comparison =>
    refine isWordStart_eq_false_of_mem_marks ?_
    simp only [Announced, isComparisonSign, Bool.or_eq_true, beq_iff_eq] at h
    rcases h with (rfl | rfl) | rfl <;> decide
  | arithmetic =>
    refine isWordStart_eq_false_of_mem_marks ?_
    simp only [Announced, isArithmeticSign, Bool.or_eq_true, beq_iff_eq] at h
    rcases h with (((rfl | rfl) | rfl) | rfl) | rfl <;> decide
  | mark kind =>
    refine isWordStart_eq_false_of_mem_marks ?_
    simp only [Announced, List.mem_cons, Prod.mk.injEq, List.not_mem_nil, or_false] at h
    rcases h with ⟨rfl, -⟩ | ⟨rfl, -⟩ | ⟨rfl, -⟩ | ⟨rfl, -⟩ | ⟨rfl, -⟩ <;> decide
  | word => exact absurd rfl hlead
  | unknown => exact h

theorem Lead.of_eq_word {c : Char} (h : isWordStart c = true) (next : Option Char) :
    Lead.of c next = .word := by
  refine Decidable.byContradiction fun hlead => ?_
  have hstart := (Lead.announced_of c next).not_isWordStart hlead
  exact Bool.false_ne_true (hstart.symm.trans h)

theorem frontPiece_word (v : Vocabulary) {c : Char} {rest : List Char}
    (hstart : isWordStart c = true) (hremark : startsRemark (c :: rest) = false) :
    frontPiece v c rest = (.words (v.wordMatch (c :: rest)),
      (c :: rest).drop (v.wordMatch (c :: rest)).text.length) := by
  simp [frontPiece, Lead.of_eq_word hstart, hremark]

theorem wordMatch_empty (text : List Char) :
    Vocabulary.empty.wordMatch text = .name (frontWord text) := by
  rcases Vocabulary.empty.wordMatch_cases text with h | ⟨taken, entry, -, hfind, -⟩
  · exact h
  · simp [Vocabulary.find?, Vocabulary.empty, Vocabulary.ofTable] at hfind

theorem pieces_empty_word {text : List Char} (hword : frontWord text ≠ [])
    (hremark : startsRemark text = false) :
    pieces .empty text = .words (.name (frontWord text)) :: pieces .empty (afterWord text) := by
  cases text with
  | nil => exact absurd rfl hword
  | cons c rest =>
    have hstart : isWordStart c = true :=
      Decidable.byContradiction fun hstart => hword (by rw [frontWord, if_neg hstart])
    have hdrop : (c :: rest).drop (frontWord (c :: rest)).length = afterWord (c :: rest) :=
      drop_of_append (frontWord_append_afterWord (c :: rest))
    rw [pieces, frontPiece_word .empty hstart hremark, wordMatch_empty, WordMatch.text_name, hdrop]

private theorem remark_letters {r e m : Char} (hr : r ∈ ['r', 'R']) (he : e ∈ ['e', 'E'])
    (hm : m ∈ ['m', 'M']) :
    ((isWordStart r = true ∧ isWordPart e = true) ∧ isWordPart m = true) ∧
      lowercase [r, e, m] = "rem".toList := by
  have hletters : (['r', 'R'].all fun r => ['e', 'E'].all fun e => ['m', 'M'].all fun m =>
      isWordStart r && isWordPart e && isWordPart m && lowercase [r, e, m] == "rem".toList) = true := by
    decide +kernel
  simp only [List.all_eq_true, Bool.and_eq_true, beq_iff_eq] at hletters
  exact hletters r hr e he m hm

theorem lowercase_frontWord_of_startsRemark {text : List Char} (h : startsRemark text = true) :
    lowercase (frontWord text) = "rem".toList := by
  unfold startsRemark at h
  split at h
  · next r e m blank back =>
    simp only [Bool.and_eq_true, Bool.or_eq_true, beq_iff_eq] at h
    obtain ⟨⟨⟨hr, he⟩, hm⟩, hblank⟩ := h
    have hend : (blank :: back).takeWhile isWordPart = [] := by
      rw [List.takeWhile_cons_of_neg]
      rw [isWordPart_eq_false_of_isWhiteSpace hblank]
      exact Bool.false_ne_true
    obtain ⟨⟨⟨hr, he⟩, hm⟩, hlower⟩ :=
      remark_letters (by simpa using hr) (by simpa using he) (by simpa using hm)
    rw [← hlower, frontWord, if_pos hr, List.takeWhile_cons_of_pos he, List.takeWhile_cons_of_pos hm,
      hend]
  · exact absurd h Bool.false_ne_true

theorem pieces_empty_of_isPrefix {taken : List LaterWord} {text : List Char}
    (htaken : taken <+: laterWords text) (hrem : ∀ w ∈ taken, lowercase w.word ≠ "rem".toList) :
    pieces .empty text = taken.flatMap LaterWord.plain ++
      pieces .empty (text.drop (taken.flatMap LaterWord.text).length) := by
  induction taken generalizing text with
  | nil => rfl
  | cons w rest ih =>
    obtain ⟨hw, hrest⟩ := List.forall_mem_cons.1 hrem
    obtain ⟨hword, rfl, hlater⟩ := cons_isPrefix_laterWords htaken
    have hremark : startsRemark (gap text).2 = false :=
      Bool.eq_false_iff.2 fun h => hw (lowercase_frontWord_of_startsRemark h)
    have hdrop := drop_of_append (LaterWord.text_append_afterWord text)
    rw [pieces_gap, pieces_empty_word hword hremark, ih hlater hrest, List.flatMap_cons,
      List.flatMap_cons, List.length_append, ← List.drop_drop, hdrop, LaterWord.plain]
    simp only [List.append_assoc, List.cons_append, List.nil_append]

private theorem Piece.plain_of_ne_words {p : Piece} (h : ∀ m, p ≠ .words m) : p.plain = [p] := by
  cases p with
  | words m => exact absurd rfl (h m)
  | _ => rfl

/-- What is not read as words does not depend on the vocabulary. -/
theorem frontPiece_eq_of_not_words (u v : Vocabulary) {c : Char} {rest : List Char}
    (h : ¬(isWordStart c = true ∧ startsRemark (c :: rest) = false)) :
    frontPiece u c rest = frontPiece v c rest := by
  unfold frontPiece
  split
  case h_9 hlead =>
    have hremark : startsRemark (c :: rest) = true := by
      have hstart := Lead.isWordStart_of_of_eq_word hlead
      exact Decidable.byContradiction fun hremark => h ⟨hstart, Bool.eq_false_iff.2 hremark⟩
    rw [if_pos hremark, if_pos hremark]
  all_goals rfl

/-- The pieces under a vocabulary, each read without keywords, are the pieces of the text without keywords. -/
theorem pieces_empty {v : Vocabulary}
    (hrem : ∀ text, ∀ w ∈ (v.wordMatch text).later, lowercase w.word ≠ "rem".toList)
    (text : List Char) : pieces .empty text = (pieces v text).flatMap Piece.plain := by
  -- along the pieces under `v`: without keywords a match goes on for several pieces, any other piece for one
  fun_induction pieces v text with
  | case1 => simp [pieces]
  | case2 c rest ih =>
    rw [List.flatMap_cons, ← ih]
    by_cases hwords : isWordStart c = true ∧ startsRemark (c :: rest) = false
    · obtain ⟨hstart, hremark⟩ := hwords
      have hword : frontWord (c :: rest) ≠ [] := by simp [frontWord, hstart]
      have hdrop : (c :: rest).drop (v.wordMatch (c :: rest)).text.length =
          (afterWord (c :: rest)).drop ((v.wordMatch (c :: rest)).later.flatMap LaterWord.text).length := by
        rw [WordMatch.text, Vocabulary.first_wordMatch, List.length_append, ← List.drop_drop,
          drop_of_append (frontWord_append_afterWord (c :: rest))]
      rw [frontPiece_word v hstart hremark, pieces_empty_word hword hremark,
        pieces_empty_of_isPrefix (v.later_wordMatch_isPrefix _) (hrem _), Piece.plain,
        Vocabulary.first_wordMatch, hdrop, List.cons_append]
    · have hfront : frontPiece .empty c rest = frontPiece v c rest :=
        frontPiece_eq_of_not_words .empty v hwords
      have hplain : (frontPiece v c rest).1.plain = [(frontPiece v c rest).1] := by
        refine Piece.plain_of_ne_words fun m hm => hwords ?_
        obtain ⟨hstart, hremark, -⟩ := frontPiece_eq_words hm
        exact ⟨hstart, hremark⟩
      rw [pieces, hfront, hplain]
      rfl

/-- Holds of the kinds of tokens that only a table of keywords brings about. -/
def TokenKind.isListed : TokenKind → Bool
  | .keyword _ _ | .operator .logical => true
  | _ => false

/-- Holds of a piece that no table of keywords has had a part in. -/
def Piece.IsPlain : Piece → Prop
  | .token kind _ => kind.isListed = false
  | .words m => m = .name m.first
  | _ => True

private theorem isPlain_closed {piece : List Char → Piece} {form : LiteralForm}
    {opening body : List Char} {found : Option (List Char × List Char)}
    (h : ∀ t, (piece t).IsPlain) : (closed piece form opening body found).1.IsPlain := by
  cases found with
  | none => trivial
  | some split => exact h _

theorem isPlain_frontPiece_empty (c : Char) (rest : List Char) :
    (frontPiece .empty c rest).1.IsPlain := by
  unfold frontPiece
  split
  · trivial
  · trivial
  · exact isPlain_closed fun _ => trivial
  · next delimiter _ => exact isPlain_closed fun _ => by cases delimiter <;> rfl
  · rfl
  · rfl
  · rfl
  · next kind hlead =>
    have hmark : (c, kind) ∈ [(';', TokenKind.semicolon), (',', .comma), (':', .colon),
        ('(', .leftParen), (')', .rightParen)] := by
      simpa only [hlead, Lead.Announced] using Lead.announced_of c rest.head?
    simp only [List.mem_cons, Prod.mk.injEq, List.not_mem_nil, or_false] at hmark
    rcases hmark with ⟨-, rfl⟩ | ⟨-, rfl⟩ | ⟨-, rfl⟩ | ⟨-, rfl⟩ | ⟨-, rfl⟩ <;> rfl
  · split
    · exact isPlain_closed fun _ => trivial
    · rw [wordMatch_empty]
      rfl
  · trivial

theorem isPlain_of_mem_pieces_empty {text : List Char} {p : Piece} (hp : p ∈ pieces .empty text) :
    p.IsPlain :=
  forall_mem_pieces (P := Piece.IsPlain) isPlain_frontPiece_empty text p hp

end LoadScript
