import LoadScript.Proofs.Scan.Concatenation

/-!
Texts that agree up to white space. Of two such texts the second one goes on with a newline where the first one goes
on with white space of any kind; nothing is known of what follows. No rule of the scanner but those of white space
and of comments and literals looks over such a place, so the rules find the same in both texts.
-/

set_option autoImplicit false
set_option relaxedAutoImplicit false

namespace LoadScript

open Text Unicode

/-- Holds of two texts that are equal, or equal up to a place where the first one goes on with white space and the
second one with a newline. -/
inductive SameFront : List Char → List Char → Prop
  | nil : SameFront [] []
  | space {c : Char} (rest rest' : List Char) : isWhiteSpace c = true → SameFront (c :: rest) ('\n' :: rest')
  | cons (c : Char) {a b : List Char} : SameFront a b → SameFront (c :: a) (c :: b)

theorem endsNumber_of_isWhiteSpace {c : Char} (h : isWhiteSpace c = true) : EndsNumber c :=
  (classes_of_isWhiteSpace h).2

theorem isWordStart_eq_false_of_isWhiteSpace {c : Char} (hc : isWhiteSpace c = true) : isWordStart c = false :=
  isWordStart_eq_false_of_not_isWordPart (isWordPart_eq_false_of_isWhiteSpace hc)

namespace SameFront

variable {a b : List Char}

theorem refl (text : List Char) : SameFront text text := by
  induction text with
  | nil => exact .nil
  | cons c rest ih => exact .cons c ih

theorem append_left (h : SameFront a b) (front : List Char) : SameFront (front ++ a) (front ++ b) := by
  induction front with
  | nil => exact h
  | cons c rest ih => exact .cons c ih

theorem eq_nil_iff (h : SameFront a b) : a = [] ↔ b = [] := by
  cases h <;> simp

theorem tail {c : Char} (h : SameFront (c :: a) b) (hc : isWhiteSpace c = false) :
    ∃ b', b = c :: b' ∧ SameFront a b' := by
  cases h with
  | space rest rest' hspace => exact absurd (hc.symm.trans hspace) Bool.false_ne_true
  | cons c hrest => exact ⟨_, rfl, hrest⟩

theorem eq_or_exists (h : SameFront a b) :
    a = b ∨ ∃ front c rest rest', isWhiteSpace c = true ∧ a = front ++ c :: rest ∧
      b = front ++ '\n' :: rest' := by
  induction h with
  | nil => exact Or.inl rfl
  | space rest rest' hc => exact Or.inr ⟨[], _, rest, rest', hc, rfl, rfl⟩
  | cons c _ ih =>
    rcases ih with rfl | ⟨front, d, rest, rest', hd, rfl, rfl⟩
    · exact Or.inl rfl
    · exact Or.inr ⟨c :: front, d, rest, rest', hd, rfl, rfl⟩

theorem head?_eq_some_iff (h : SameFront a b) {d : Char} (hd : isWhiteSpace d = false) :
    a.head? = some d ↔ b.head? = some d := by
  cases h with
  | nil => exact Iff.rfl
  | space rest rest' hc =>
    have hne : ∀ {c : Char}, isWhiteSpace c = true → c ≠ d := by
      rintro c hspace rfl
      exact Bool.false_ne_true (hd.symm.trans hspace)
    simp [hne hc, hne newline_isWhiteSpace]
  | cons c _ => exact Iff.rfl

theorem head?_newline (h : SameFront a b) (ha : a.head? = some '\n') : b.head? = some '\n' := by
  cases h with
  | nil => exact ha
  | space rest rest' hc => rfl
  | cons c _ => exact ha

theorem head?_not_isWhiteSpace (h : SameFront a b) (ha : ∀ c ∈ a.head?, isWhiteSpace c = false) :
    ∀ c ∈ b.head?, isWhiteSpace c = false := by
  cases h with
  | nil => exact ha
  | space rest rest' hc => exact absurd ((ha _ rfl).symm.trans hc) Bool.false_ne_true
  | cons c _ => exact ha

theorem takeWhile {p : Char → Bool} (hp : ∀ c, isWhiteSpace c = true → p c = false) (h : SameFront a b) :
    a.takeWhile p = b.takeWhile p ∧ SameFront (a.dropWhile p) (b.dropWhile p) := by
  induction h with
  | nil => exact ⟨rfl, .nil⟩
  | @space c rest rest' hc =>
    have hnewline := Bool.eq_false_iff.1 (hp '\n' newline_isWhiteSpace)
    have hspace := Bool.eq_false_iff.1 (hp c hc)
    rw [List.takeWhile_cons_of_neg hspace, List.takeWhile_cons_of_neg hnewline,
      List.dropWhile_cons_of_neg hspace, List.dropWhile_cons_of_neg hnewline]
    exact ⟨rfl, .space rest rest' hc⟩
  | cons c hrest ih =>
    rw [List.takeWhile_cons, List.takeWhile_cons, List.dropWhile_cons, List.dropWhile_cons]
    split
    · exact ⟨congrArg (List.cons c) ih.1, ih.2⟩
    · exact ⟨rfl, .cons c hrest⟩

theorem frontWord_eq (h : SameFront a b) :
    frontWord a = frontWord b ∧ SameFront (afterWord a) (afterWord b) := by
  cases h with
  | nil => exact ⟨rfl, .nil⟩
  | @space c rest rest' hc =>
    have hnewline := Bool.eq_false_iff.1 (isWordStart_eq_false_of_isWhiteSpace newline_isWhiteSpace)
    have hspace := Bool.eq_false_iff.1 (isWordStart_eq_false_of_isWhiteSpace hc)
    rw [frontWord, frontWord, afterWord, afterWord, if_neg hspace, if_neg hnewline, if_neg hspace, if_neg hnewline]
    exact ⟨rfl, .space rest rest' hc⟩
  | cons c hrest =>
    obtain ⟨htake, hdrop⟩ := hrest.takeWhile fun c hc => isWordPart_eq_false_of_isWhiteSpace (c := c) hc
    rw [frontWord, frontWord, afterWord, afterWord]
    split
    · exact ⟨congrArg (List.cons c) htake, hdrop⟩
    · exact ⟨rfl, .cons c hrest⟩

theorem frontNumber_eq (h : SameFront a b) : frontNumber a = frontNumber b := by
  rcases h.eq_or_exists with rfl | ⟨front, c, rest, rest', hc, rfl, rfl⟩
  · rfl
  · rw [frontNumber_append_cons (endsNumber_of_isWhiteSpace hc),
      frontNumber_append_cons (endsNumber_of_isWhiteSpace newline_isWhiteSpace)]

theorem startsRemark_eq (h : SameFront a b) : startsRemark a = startsRemark b := by
  rcases h.eq_or_exists with rfl | ⟨front, c, rest, rest', hc, rfl, rfl⟩
  · rfl
  · have hspace := isWordPart_eq_false_of_isWhiteSpace hc
    have hnewline := isWordPart_eq_false_of_isWhiteSpace newline_isWhiteSpace
    -- the white space is among the first three characters, or the fourth, or behind it
    rcases front with _ | ⟨r, _ | ⟨e, _ | ⟨m, _ | ⟨blank, back⟩⟩⟩⟩
    · rw [startsRemark_eq_false hspace (by simp), startsRemark_eq_false hnewline (by simp)]
    · rw [startsRemark_eq_false hspace (by simp), startsRemark_eq_false hnewline (by simp)]
    · rw [startsRemark_eq_false hspace (by simp), startsRemark_eq_false hnewline (by simp)]
    · simp [startsRemark, hc, newline_isWhiteSpace]
    · rfl

theorem lead_eq (h : SameFront a b) (c : Char) : Lead.of c a.head? = Lead.of c b.head? := by
  have hslash := h.head?_eq_some_iff (d := '/') (classes_of_mem_marks (by decide)).2
  have hstar := h.head?_eq_some_iff (d := '*') (classes_of_mem_marks (by decide)).2
  have hparenthesis := h.head?_eq_some_iff (d := '(') (classes_of_mem_marks (by decide)).2
  simp only [Lead.of, hslash, hstar, hparenthesis]

theorem longComparison_eq (h : SameFront a b) (c : Char) :
    (a.head?.any fun d => longComparisons.contains (c, d)) =
      b.head?.any fun d => longComparisons.contains (c, d) := by
  cases h with
  | nil => rfl
  | @space d rest rest' hd =>
    have hno : ∀ {d : Char}, isWhiteSpace d = true → longComparisons.contains (c, d) = false := by
      intro d hd
      have hsigns : d ∈ ['<', '>', '='] → isWhiteSpace d = false := by
        simp only [List.mem_cons, List.not_mem_nil, or_false]
        rintro (rfl | rfl | rfl) <;> exact (classes_of_mem_marks (by decide)).2
      refine Bool.eq_false_iff.2 fun hcontains => Bool.false_ne_true ((hsigns ?_).symm.trans hd)
      simp only [longComparisons, List.contains_iff_mem, List.mem_cons, Prod.mk.injEq, List.not_mem_nil,
        or_false] at hcontains ⊢
      rcases hcontains with ⟨-, h⟩ | ⟨-, h⟩ | ⟨-, h⟩ | ⟨-, h⟩ | ⟨-, h⟩ <;> simp [h]
    simp only [List.head?_cons, Option.any_some, hno hd, hno newline_isWhiteSpace]
  | cons d _ => rfl

end SameFront

theorem takeWhile_append_of_head? {p : Char → Bool} {run b : List Char} (hrun : ∀ c ∈ run, p c = true)
    (hb : ∀ c ∈ b.head?, p c = false) : (run ++ b).takeWhile p = run ∧ (run ++ b).dropWhile p = b := by
  rw [List.takeWhile_append_of_pos hrun, List.dropWhile_append_of_pos hrun]
  cases b with
  | nil => simp
  | cons c rest => simp [hb c rfl]

theorem takeWhile_takeWhile_append {p : Char → Bool} (text : List Char) {b : List Char}
    (hb : ∀ c ∈ b.head?, p c = false) :
    (text.takeWhile p ++ b).takeWhile p = text.takeWhile p ∧ (text.takeWhile p ++ b).dropWhile p = b :=
  takeWhile_append_of_head? (List.all_eq_true.1 List.all_takeWhile) hb

theorem head?_dropWhile_eq_false {p : Char → Bool} (text : List Char) :
    ∀ c ∈ (text.dropWhile p).head?, p c = false := by
  intro c hc
  have hhead := List.head?_dropWhile_not p text
  rwa [hc] at hhead

theorem SameFront.head?_lineEnd {text b : List Char} (h : SameFront (text.dropWhile (· ≠ '\n')) b) :
    ∀ d ∈ b.head?, decide (d ≠ '\n') = false := by
  intro d hd
  cases hdrop : (text.dropWhile (· ≠ '\n')).head? with
  | none =>
    obtain rfl := h.eq_nil_iff.1 (List.head?_eq_none_iff.1 hdrop)
    exact absurd hd.symm (Option.some_ne_none d)
  | some c =>
    have hc := head?_dropWhile_eq_false text c hdrop
    obtain rfl : c = '\n' := by simpa using hc
    have hnewline := h.head?_newline hdrop
    obtain rfl := Option.some.inj (hnewline.symm.trans hd)
    rfl

namespace Text

variable {text inside after : List Char}

theorem throughChar?_inside {close : Char} (h : throughChar? close text = some (inside, after)) :
    throughChar? close inside = some (inside, []) := by
  induction text generalizing inside with
  | nil => exact absurd h.symm (Option.some_ne_none _)
  | cons c rest ih =>
    rw [throughChar?] at h
    split at h
    · next hclose =>
      obtain ⟨rfl, rfl⟩ := Prod.mk.inj (Option.some.inj h)
      rw [throughChar?, if_pos hclose]
    · next hclose =>
      obtain ⟨⟨body, back⟩, hrest, hsame⟩ := Option.map_eq_some_iff.1 h
      obtain ⟨rfl, rfl⟩ := Prod.mk.inj hsame
      rw [throughChar?, if_neg hclose, ih hrest]
      rfl

theorem throughStarSlash?_inside (h : throughStarSlash? text = some (inside, after)) :
    throughStarSlash? inside = some (inside, []) := by
  induction text generalizing inside with
  | nil => exact absurd h.symm (Option.some_ne_none _)
  | cons c rest ih =>
    rw [throughStarSlash?] at h
    split at h
    · obtain ⟨rfl, rfl⟩ := Prod.mk.inj (Option.some.inj h)
      rfl
    · next hmark =>
      obtain ⟨⟨body, back⟩, hrest, hsame⟩ := Option.map_eq_some_iff.1 h
      obtain ⟨rfl, rfl⟩ := Prod.mk.inj hsame
      have hbody : body ≠ [] := by
        rintro rfl
        exact absurd (ih hrest).symm (Option.some_ne_none _)
      have hhead : body.head? = rest.head? := by
        obtain ⟨d, more, rfl⟩ := List.exists_cons_of_ne_nil hbody
        rw [← append_of_throughStarSlash? hrest]
        rfl
      rw [throughStarSlash?, hhead, if_neg hmark, ih hrest]
      rfl

end Text

/-- A piece of a gap is read again in front of a text that agrees with the one it was read in front of. -/
theorem gapPiece?_append {text after b : List Char} {f : Filler} (h : gapPiece? text = some (f, after))
    (hsame : SameFront after b) : gapPiece? (f.text ++ b) = some (f, b) := by
  cases text with
  | nil => exact absurd h.symm (Option.some_ne_none _)
  | cons c rest =>
    rcases gapPiece?_eq_some h with ⟨hspace, rfl, rfl⟩ | ⟨hspace, ⟨rfl, hslash⟩, rfl, rfl⟩ |
      ⟨hspace, hline, ⟨rfl, hstar⟩, body, hbody, rfl⟩
    · have hb := hsame.head?_not_isWhiteSpace (head?_dropWhile_eq_false rest)
      obtain ⟨htake, hdrop⟩ := takeWhile_takeWhile_append rest hb
      rw [List.cons_append, gapPiece?, if_pos hspace, htake, hdrop]
    · obtain ⟨htake, hdrop⟩ := takeWhile_takeWhile_append rest hsame.head?_lineEnd
      obtain ⟨more, rfl⟩ := List.head?_eq_some_iff.1 hslash
      have hhead : (('/' :: more).takeWhile (· ≠ '\n') ++ b).head? = some '/' := rfl
      rw [List.cons_append, gapPiece?, if_neg hspace, if_pos ⟨rfl, hhead⟩, htake, hdrop]
    · have hthrough := throughStarSlash?_append (throughStarSlash?_inside hbody) b
      rw [List.nil_append] at hthrough
      simp [gapPiece?, hspace, hthrough]

end LoadScript
