import LoadScript.Proofs.Scan.PlainPieces
import LoadScript.Proofs.Unicode.AsciiCase

set_option autoImplicit false
set_option relaxedAutoImplicit false

namespace LoadScript

open Text Unicode

/-- A text with its ASCII letters in lower case. -/
def lowered (text : List Char) : List Char :=
  text.map Char.toLower

@[simp]
theorem lowered_nil : lowered [] = [] :=
  rfl

@[simp]
theorem lowered_cons (c : Char) (rest : List Char) : lowered (c :: rest) = c.toLower :: lowered rest :=
  rfl

theorem lowered_append (front back : List Char) : lowered (front ++ back) = lowered front ++ lowered back :=
  List.map_append

theorem length_lowered (text : List Char) : (lowered text).length = text.length :=
  List.length_map _

theorem drop_lowered (n : Nat) (text : List Char) : (lowered text).drop n = lowered (text.drop n) :=
  List.map_drop.symm

theorem head?_lowered (text : List Char) : (lowered text).head? = text.head?.map Char.toLower :=
  List.head?_map

theorem lowered_eq_nil_iff {text : List Char} : lowered text = [] ↔ text = [] :=
  List.map_eq_nil_iff

theorem isEmpty_lowered (text : List Char) : (lowered text).isEmpty = text.isEmpty :=
  List.isEmpty_map

section Runs

variable {p : Char → Bool} (hp : ∀ c, p c.toLower = p c)
include hp

theorem takeWhile_lowered (text : List Char) : (lowered text).takeWhile p = lowered (text.takeWhile p) := by
  have hcomp : p ∘ Char.toLower = p := funext hp
  rw [lowered, List.takeWhile_map, hcomp, lowered]

theorem dropWhile_lowered (text : List Char) : (lowered text).dropWhile p = lowered (text.dropWhile p) := by
  have hcomp : p ∘ Char.toLower = p := funext hp
  rw [lowered, List.dropWhile_map, hcomp, lowered]

end Runs

theorem ne_newline_toLower (c : Char) : decide (c.toLower ≠ '\n') = decide (c ≠ '\n') := by
  rw [decide_eq_decide, ne_eq,
    toLower_eq_iff (isWordStart_eq_false_of_not_isWordPart (isWordPart_eq_false_of_isWhiteSpace newline_isWhiteSpace))]

theorem takeWhile_line_lowered (text : List Char) :
    (lowered text).takeWhile (· ≠ '\n') = lowered (text.takeWhile (· ≠ '\n')) :=
  takeWhile_lowered (p := fun c => decide (c ≠ '\n')) ne_newline_toLower text

theorem dropWhile_line_lowered (text : List Char) :
    (lowered text).dropWhile (· ≠ '\n') = lowered (text.dropWhile (· ≠ '\n')) :=
  dropWhile_lowered (p := fun c => decide (c ≠ '\n')) ne_newline_toLower text

theorem head?_lowered_eq_some_iff {d : Char} (hd : isWordStart d = false) (text : List Char) :
    (lowered text).head? = some d ↔ text.head? = some d := by
  cases text with
  | nil => exact Iff.rfl
  | cons c rest =>
    rw [lowered_cons, List.head?_cons, List.head?_cons, Option.some_inj, Option.some_inj, toLower_eq_iff hd]

theorem throughChar?_lowered {close : Char} (hclose : isWordStart close = false) (text : List Char) :
    throughChar? close (lowered text) =
      (throughChar? close text).map fun (body, after) => (lowered body, lowered after) := by
  induction text with
  | nil => rfl
  | cons c rest ih =>
    simp only [lowered_cons, throughChar?, toLower_eq_iff hclose, ih]
    split
    · rfl
    · cases throughChar? close rest <;> rfl

theorem throughStarSlash?_lowered (text : List Char) :
    throughStarSlash? (lowered text) =
      (throughStarSlash? text).map fun (body, after) => (lowered body, lowered after) := by
  induction text with
  | nil => rfl
  | cons c rest ih =>
    have hstar : isWordStart '*' = false := isWordStart_eq_false_of_mem_marks (by decide)
    have hslash : isWordStart '/' = false := isWordStart_eq_false_of_mem_marks (by decide)
    have htail : (lowered rest).tail = lowered rest.tail := List.map_tail.symm
    simp only [lowered_cons, throughStarSlash?, toLower_eq_iff hstar, head?_lowered_eq_some_iff hslash, ih, htail]
    split
    · rfl
    · cases throughStarSlash? rest <;> rfl

def Filler.lowered (f : Filler) : Filler :=
  ⟨f.kind, LoadScript.lowered f.text⟩

def LaterWord.lowered (w : LaterWord) : LaterWord :=
  ⟨w.filler.map Filler.lowered, LoadScript.lowered w.word⟩

def WordMatch.lowered (m : WordMatch) : WordMatch :=
  { m with first := LoadScript.lowered m.first, later := m.later.map LaterWord.lowered }

/-- A piece with its text in lower case. A character that no rule reads is not a letter. -/
def Piece.lowered : Piece → Piece
  | .trivia kind text => .trivia kind (LoadScript.lowered text)
  | .unknown ch => .unknown ch
  | .unterminated form text => .unterminated form (LoadScript.lowered text)
  | .token kind text => .token kind (LoadScript.lowered text)
  | .words found => .words found.lowered

theorem flatMap_text_lowered_filler (filler : List Filler) :
    (filler.map Filler.lowered).flatMap Filler.text = lowered (filler.flatMap Filler.text) := by
  induction filler with
  | nil => rfl
  | cons f rest ih => rw [List.map_cons, List.flatMap_cons, ih, List.flatMap_cons, lowered_append]; rfl

theorem LaterWord.text_lowered (w : LaterWord) : w.lowered.text = LoadScript.lowered w.text := by
  rw [text, text, lowered_append, ← flatMap_text_lowered_filler]
  rfl

theorem WordMatch.text_lowered (m : WordMatch) : m.lowered.text = LoadScript.lowered m.text := by
  have hlater : (m.later.map LaterWord.lowered).flatMap LaterWord.text =
      LoadScript.lowered (m.later.flatMap LaterWord.text) := by
    induction m.later with
    | nil => rfl
    | cons w rest ih =>
      rw [List.map_cons, List.flatMap_cons, ih, w.text_lowered, List.flatMap_cons, lowered_append]
  rw [text, text, lowered_append, ← hlater]
  rfl

theorem gapPiece?_lowered (text : List Char) :
    gapPiece? (lowered text) =
      (gapPiece? text).map fun (filler, after) => (filler.lowered, lowered after) := by
  cases text with
  | nil => rfl
  | cons c rest =>
    have hstar : isWordStart '*' = false := isWordStart_eq_false_of_mem_marks (by decide)
    have hslash : isWordStart '/' = false := isWordStart_eq_false_of_mem_marks (by decide)
    have htail : (lowered rest).tail = lowered rest.tail := List.map_tail.symm
    simp only [lowered_cons, gapPiece?, isWhiteSpace_toLower, toLower_eq_iff hslash,
      head?_lowered_eq_some_iff hslash, head?_lowered_eq_some_iff hstar, htail, throughStarSlash?_lowered,
      takeWhile_lowered isWhiteSpace_toLower, dropWhile_lowered isWhiteSpace_toLower,
      takeWhile_line_lowered, dropWhile_line_lowered]
    split
    · rfl
    · split
      · rfl
      · split
        · cases throughStarSlash? rest.tail <;> rfl
        · rfl

theorem gap_lowered (text : List Char) :
    gap (lowered text) = ((gap text).1.map Filler.lowered, lowered (gap text).2) := by
  fun_induction gap text with
  | case1 text hpiece =>
    have hlowered := gapPiece?_lowered text
    rw [hpiece, Option.map_none] at hlowered
    rw [gap, hlowered]
    rfl
  | case2 text filler after hpiece ih =>
    have hlowered := gapPiece?_lowered text
    rw [hpiece, Option.map_some] at hlowered
    rw [gap, hlowered]
    simp only [ih, List.map_cons]

theorem frontWord_lowered (text : List Char) : frontWord (lowered text) = lowered (frontWord text) := by
  cases text with
  | nil => rfl
  | cons c rest =>
    rw [lowered_cons, frontWord, frontWord, isWordStart_toLower]
    split
    · rw [takeWhile_lowered isWordPart_toLower, lowered_cons]
    · rfl

theorem afterWord_lowered (text : List Char) : afterWord (lowered text) = lowered (afterWord text) := by
  cases text with
  | nil => rfl
  | cons c rest =>
    rw [lowered_cons, afterWord, afterWord, isWordStart_toLower]
    split
    · rw [dropWhile_lowered isWordPart_toLower]
    · rfl

namespace Vocabulary

variable (v : Vocabulary)

theorem lookupKey_map_lowered (words : List (List Char)) :
    lookupKey (words.map LoadScript.lowered) = lookupKey words := by
  have hlower : lowercase ∘ LoadScript.lowered = lowercase := funext lowercase_map_toLower
  rw [lookupKey, List.map_map, hlower, lookupKey]

theorem isOpening_map_lowered (words : List (List Char)) :
    v.isOpening (words.map LoadScript.lowered) = v.isOpening words := by
  rw [isOpening, lookupKey_map_lowered, isOpening]

theorem find?_map_lowered (words : List (List Char)) :
    v.find? (words.map LoadScript.lowered) = v.find? words := by
  simp only [find?, lookupKey_map_lowered, List.isEmpty_map, List.length_map]

theorem lookAhead_lowered (count : Nat) (seen : List (List Char)) (text : List Char) :
    v.lookAhead count (seen.map LoadScript.lowered) (LoadScript.lowered text) =
      (v.lookAhead count seen text).map LaterWord.lowered := by
  induction count generalizing seen text with
  | zero => rfl
  | succ count ih =>
    have hafter := ih (seen ++ [frontWord (gap text).2]) (afterWord (gap text).2)
    rw [List.map_append, List.map_singleton] at hafter
    simp only [lookAhead, isOpening_map_lowered, gap_lowered, frontWord_lowered, afterWord_lowered, hafter,
      isEmpty_lowered]
    split
    · split <;> rfl
    · rfl

theorem longest?_lowered (first : List Char) (later : List LaterWord) (count : Nat) :
    v.longest? (LoadScript.lowered first) (later.map LaterWord.lowered) count =
      (v.longest? first later count).map fun (taken, entry) => (taken.map LaterWord.lowered, entry) := by
  induction count with
  | zero =>
    have hfind := v.find?_map_lowered [first]
    rw [List.map_singleton] at hfind
    rw [longest?, longest?, hfind]
    cases v.find? [first] <;> rfl
  | succ count ih =>
    have hfind := v.find?_map_lowered (first :: (later.take (count + 1)).map LaterWord.word)
    have hwords : (first :: (later.take (count + 1)).map LaterWord.word).map LoadScript.lowered =
        LoadScript.lowered first ::
          ((later.map LaterWord.lowered).take (count + 1)).map LaterWord.word := by
      rw [List.map_cons, ← List.map_take, List.map_map, List.map_map]
      rfl
    rw [hwords] at hfind
    rw [longest?, longest?, hfind]
    cases v.find? (first :: (later.take (count + 1)).map LaterWord.word) with
    | some entry => simp only [Option.map_some, List.map_take]
    | none => exact ih

theorem wordMatch_lowered (text : List Char) :
    v.wordMatch (LoadScript.lowered text) = (v.wordMatch text).lowered := by
  have hparenthesis := head?_lowered_eq_some_iff (d := '(') (isWordStart_eq_false_of_mem_marks (by decide))
    (afterWord text)
  have hahead := v.lookAhead_lowered (v.maxWords - 1) [frontWord text] (afterWord text)
  rw [List.map_singleton] at hahead
  simp only [wordMatch, frontWord_lowered, afterWord_lowered, hahead, List.length_map, longest?_lowered]
  cases v.longest? (frontWord text) (v.lookAhead (v.maxWords - 1) [frontWord text] (afterWord text))
      (v.lookAhead (v.maxWords - 1) [frontWord text] (afterWord text)).length with
  | none => rfl
  | some found =>
    simp only [Option.map_some, List.isEmpty_map, hparenthesis]
    split <;> rfl

end Vocabulary

theorem frontDigits_lowered (text : List Char) : frontDigits (lowered text) = lowered (frontDigits text) :=
  takeWhile_lowered isDigit_toLower text

theorem frontSign_lowered (text : List Char) : frontSign (lowered text) = lowered (frontSign text) := by
  have hplus := head?_lowered_eq_some_iff (d := '+') (isWordStart_eq_false_of_mem_marks (by decide)) text
  have hminus := head?_lowered_eq_some_iff (d := '-') (isWordStart_eq_false_of_mem_marks (by decide)) text
  unfold frontSign
  split
  · next hhead => rw [hplus.1 hhead]; rfl
  · next hhead => rw [hminus.1 hhead]; rfl
  · next hp hm =>
    split
    · next hhead => exact absurd (hplus.2 hhead) hp
    · next hhead => exact absurd (hminus.2 hhead) hm
    · rfl

theorem frontFraction_lowered (text : List Char) :
    frontFraction (lowered text) = lowered (frontFraction text) := by
  cases text with
  | nil => rfl
  | cons c rest =>
    have hpoint : isWordStart '.' = false := by decide
    simp only [lowered_cons, frontFraction, toLower_eq_iff hpoint, frontDigits_lowered, ne_eq, lowered_eq_nil_iff]
    split <;> rfl

theorem frontExponent_lowered (text : List Char) :
    frontExponent (lowered text) = lowered (frontExponent text) := by
  cases text with
  | nil => rfl
  | cons c rest =>
    have hletter : (c.toLower = 'e' ∨ c.toLower = 'E') ↔ (c = 'e' ∨ c = 'E') := by
      have h := congrArg CharClasses.isE (classesOf_toLower c)
      rw [Bool.eq_iff_iff] at h
      simpa [classesOf] using h
    simp only [lowered_cons, frontExponent, hletter, frontSign_lowered, length_lowered, drop_lowered,
      frontDigits_lowered, ne_eq, lowered_eq_nil_iff]
    split
    · simp only [lowered_cons, lowered_append, List.cons_append]
    · rfl

theorem frontNumber_lowered (text : List Char) :
    frontNumber (lowered text) = ((frontNumber text).1, lowered (frontNumber text).2) := by
  simp only [frontNumber, frontDigits_lowered, length_lowered, drop_lowered, frontFraction_lowered,
    lowered_eq_nil_iff, frontExponent_lowered]
  split
  · rfl
  · simp only [lowered_append]

theorem startsRemark_lowered (text : List Char) : startsRemark (lowered text) = startsRemark text := by
  match text with
  | [] | [_] | [_, _] | [_, _, _] => rfl
  | r :: e :: m :: blank :: rest =>
    have hr : (r.toLower == 'r' || r.toLower == 'R') = (r == 'r' || r == 'R') :=
      congrArg CharClasses.isR (classesOf_toLower r)
    have he : (e.toLower == 'e' || e.toLower == 'E') = (e == 'e' || e == 'E') :=
      congrArg CharClasses.isE (classesOf_toLower e)
    have hm : (m.toLower == 'm' || m.toLower == 'M') = (m == 'm' || m == 'M') :=
      congrArg CharClasses.isM (classesOf_toLower m)
    simp only [lowered_cons, startsRemark, hr, he, hm, isWhiteSpace_toLower]

theorem Lead.of_toLower (c : Char) (next : Option Char) :
    Lead.of c.toLower (next.map Char.toLower) = Lead.of c next := by
  by_cases hstart : isWordStart c = true
  · rw [Lead.of_eq_word hstart, Lead.of_eq_word ((isWordStart_toLower c).trans hstart)]
  · have hnext : ∀ {d : Char}, isWordStart d = false → (next.map Char.toLower = some d ↔ next = some d) := by
      intro d hd
      cases next with
      | none => exact Iff.rfl
      | some n => rw [Option.map_some, Option.some_inj, Option.some_inj, toLower_eq_iff hd]
    have hslash := hnext (d := '/') (isWordStart_eq_false_of_mem_marks (by decide))
    have hstar := hnext (d := '*') (isWordStart_eq_false_of_mem_marks (by decide))
    have hparenthesis := hnext (d := '(') (isWordStart_eq_false_of_mem_marks (by decide))
    simp only [Lead.of, toLower_eq_self (Bool.eq_false_iff.2 hstart), hslash, hstar, hparenthesis]

theorem fst_closed_lowered {piece : List Char → Piece} (hpiece : ∀ t, piece (lowered t) = (piece t).lowered)
    (form : LiteralForm) {opening : List Char} (hopening : lowered opening = opening) (body : List Char)
    (found : Option (List Char × List Char)) :
    (closed piece form opening (lowered body) (found.map fun (body, after) => (lowered body, lowered after))).1 =
      (closed piece form opening body found).1.lowered := by
  cases found with
  | none => simp only [closed, Option.map_none, Piece.lowered, lowered_append, hopening]
  | some split => simp only [closed, Option.map_some, ← hpiece, lowered_append, hopening]

theorem Delimiter.lowered_opening (d : Delimiter) : lowered d.opening = d.opening := by
  cases d <;> decide

theorem Delimiter.closing_not_isWordStart (d : Delimiter) : isWordStart d.closing = false := by
  cases d <;> exact isWordStart_eq_false_of_mem_marks (by decide)

theorem fst_frontPiece_lowered (v : Vocabulary) (c : Char) (rest : List Char) :
    (frontPiece v c.toLower (lowered rest)).1 = (frontPiece v c rest).1.lowered := by
  have hlead := Lead.of_toLower c rest.head?
  rw [← head?_lowered] at hlead
  have htail : (lowered rest).tail = lowered rest.tail := List.map_tail.symm
  unfold frontPiece
  rw [hlead, ← lowered_cons]
  cases hcase : Lead.of c rest.head? with
  | whitespace => simp only [takeWhile_lowered isWhiteSpace_toLower]; rfl
  | lineComment => simp only [takeWhile_line_lowered]; rfl
  | blockComment =>
    simp only [htail, throughStarSlash?_lowered]
    exact fst_closed_lowered (fun _ => rfl) _ rfl _ _
  | literal delimiter =>
    simp only [drop_lowered, throughChar?_lowered delimiter.closing_not_isWordStart]
    exact fst_closed_lowered (fun _ => rfl) _ delimiter.lowered_opening _ _
  | number => simp only [frontNumber_lowered]; rfl
  | comparison =>
    have hlong : ∀ d : Char, longComparisons.contains (c.toLower, d.toLower) = longComparisons.contains (c, d) := by
      intro d
      have hless : isWordStart '<' = false := isWordStart_eq_false_of_mem_marks (by decide)
      have hgreater : isWordStart '>' = false := isWordStart_eq_false_of_mem_marks (by decide)
      have hequal : isWordStart '=' = false := isWordStart_eq_false_of_mem_marks (by decide)
      simp [longComparisons, toLower_eq_iff hless, toLower_eq_iff hgreater, toLower_eq_iff hequal]
    simp only [head?_lowered, Option.any_map, hlong]
    split
    · exact congrArg (Piece.token _) List.map_take.symm
    · rfl
  | arithmetic => rfl
  | mark kind => rfl
  | word =>
    simp only [startsRemark_lowered]
    split
    · simp only [throughChar?_lowered (isWordStart_eq_false_of_mem_marks (by decide) : isWordStart ';' = false)]
      exact fst_closed_lowered (fun _ => rfl) _ rfl _ _
    · simp only [v.wordMatch_lowered]
      rfl
  | unknown =>
    have hstart : isWordStart c = false := by
      simpa only [hcase, Lead.Announced] using Lead.announced_of c rest.head?
    rw [toLower_eq_self hstart]
    rfl

theorem eq_of_frontPiece_eq_unknown {v : Vocabulary} {c ch : Char} {rest : List Char}
    (h : (frontPiece v c rest).1 = .unknown ch) : ch = c ∧ isWordStart c = false := by
  have htext := text_append_frontPiece v c rest
  rw [h] at htext
  refine ⟨(List.cons.inj htext).1, Bool.eq_false_iff.2 fun hstart => ?_⟩
  simp only [frontPiece, Lead.of_eq_word hstart] at h
  split at h
  · cases hclosed : throughChar? ';' (c :: rest) <;> simp [hclosed, closed] at h
  · exact Piece.noConfusion h

theorem Piece.text_lowered {p : Piece} (h : ∀ ch, p = .unknown ch → ch.toLower = ch) :
    p.lowered.text = LoadScript.lowered p.text := by
  cases p with
  | trivia kind text => rfl
  | unknown ch => rw [text, lowered_cons, h ch rfl]; rfl
  | unterminated form text => rfl
  | token kind text => rfl
  | words found => exact found.text_lowered

theorem frontPiece_lowered (v : Vocabulary) (c : Char) (rest : List Char) :
    frontPiece v c.toLower (lowered rest) = ((frontPiece v c rest).1.lowered, lowered (frontPiece v c rest).2) := by
  refine frontPiece_eq_of_text (fst_frontPiece_lowered v c rest) ?_
  have htext := Piece.text_lowered (p := (frontPiece v c rest).1) fun ch hch => by
    obtain ⟨rfl, hstart⟩ := eq_of_frontPiece_eq_unknown hch
    exact toLower_eq_self hstart
  rw [htext, ← lowered_append, text_append_frontPiece, lowered_cons]

/-- A script in lower case has the same pieces in lower case. -/
theorem pieces_lowered (v : Vocabulary) (text : List Char) :
    pieces v (lowered text) = (pieces v text).map Piece.lowered := by
  fun_induction pieces v text with
  | case1 => rw [lowered_nil, pieces, List.map_nil]
  | case2 c rest ih => rw [lowered_cons, pieces, frontPiece_lowered, ih, List.map_cons]

end LoadScript
