import LoadScript.Proofs.LexicalGrammar

set_option autoImplicit false
set_option relaxedAutoImplicit false

namespace LoadScript

open Text

def LacksClosing (opening : List Char) (closing : Char) (text : List Char) : Prop :=
  ∃ body, text = opening ++ body ∧ closing ∉ body

def LiteralForm.IsOpen (form : LiteralForm) (text : List Char) : Prop :=
  match form with
  | .singleQuoted => LacksClosing ['\''] '\'' text
  | .doubleQuoted => LacksClosing ['"'] '"' text
  | .bracketField => LacksClosing ['['] ']' text
  | .expansion => LacksClosing ['$', '('] ')' text
  | .blockComment => ∃ body, text = ['/', '*'] ++ body ∧ ¬['*', '/'] <:+: body
  | .remComment => OpensRemark text ∧ ';' ∉ text

/-- Holds of a problem of the scan and the skipped text that it is about. -/
def Problem.Marks (source : List Char) (p : Problem) (t : Trivia) : Prop :=
  p.offset = t.span.start ∧ StandsIn source t.span t.text fun text after =>
    match p with
    | .unknownCharacter ch _ => text = [ch] ∧ StartsNothing ch after
    | .unterminated form _ => form.IsOpen text ∧ after = []
    | .unmatchedOpen _ | .unmatchedClose _ | .nestedTooDeep _ _ => False

/-- What a piece is skipped for, in front of a text, if it is skipped at all. -/
def Piece.Excuse (p : Piece) (after : List Char) : Prop :=
  match p with
  | .trivia kind _ => kind ≠ .skipped
  | .unknown ch => StartsNothing ch after
  | .unterminated form text => form.IsOpen text ∧ after = []
  | .token _ _ | .words _ => True

theorem excuse_closed {piece : List Char → Piece} {form : LiteralForm} {opening body : List Char}
    {found : Option (List Char × List Char)} (hpiece : ∀ text after, (piece text).Excuse after)
    (hopen : found = none → form.IsOpen (opening ++ body)) :
    (closed piece form opening body found).1.Excuse (closed piece form opening body found).2 := by
  cases found with
  | none => exact ⟨hopen rfl, rfl⟩
  | some split => exact hpiece _ _

theorem Delimiter.isOpen_form (delimiter : Delimiter) {body : List Char}
    (h : throughChar? delimiter.closing body = none) : delimiter.form.IsOpen (delimiter.opening ++ body) := by
  have hbody := not_mem_of_throughChar?_eq_none h
  cases delimiter <;> exact ⟨body, rfl, hbody⟩

theorem excuse_frontPiece (v : Vocabulary) (c : Char) (rest : List Char) :
    (frontPiece v c rest).1.Excuse (frontPiece v c rest).2 := by
  cases hlead : Lead.of c rest.head? with
  | blockComment =>
    simp only [frontPiece, hlead]
    refine excuse_closed (fun _ _ => TriviaKind.noConfusion) fun hnone => ?_
    exact ⟨rest.tail, rfl, not_isInfix_of_throughStarSlash?_eq_none hnone⟩
  | literal delimiter =>
    simp only [frontPiece, hlead]
    exact excuse_closed (fun _ _ => trivial) delimiter.isOpen_form
  | word =>
    by_cases hremark : startsRemark (c :: rest) = true
    · simp only [frontPiece, hlead, hremark, if_true]
      refine excuse_closed (fun _ _ => TriviaKind.noConfusion) fun hnone => ?_
      exact ⟨(startsRemark_iff _).1 hremark, not_mem_of_throughChar?_eq_none hnone⟩
    · simp only [frontPiece, hlead, hremark]
      trivial
  | unknown =>
    simp only [frontPiece, hlead]
    exact startsNothing_of_lead hlead
  | whitespace | lineComment =>
    simp only [frontPiece, hlead]
    exact TriviaKind.noConfusion
  | number | comparison | arithmetic | mark =>
    simp only [frontPiece, hlead]
    trivial

theorem Problem.marks_unknown (before after : List Char) {ch : Char} (h : StartsNothing ch after) :
    (Problem.unknownCharacter ch (byteLength before)).Marks (before ++ [ch] ++ after)
      (Trivia.placed (byteLength before) .skipped [ch]) :=
  ⟨rfl, before, [ch], after, rfl, rfl, rfl, rfl, h⟩

theorem Problem.marks_unterminated (before : List Char) {form : LiteralForm} {text : List Char}
    (h : form.IsOpen text) :
    (Problem.unterminated form (byteLength before)).Marks (before ++ text)
      (Trivia.placed (byteLength before) .skipped text) :=
  ⟨rfl, before, text, [], (List.append_nil _).symm, rfl, rfl, h, rfl⟩

/-- Holds of problems and skipped texts that correspond one for one, where only the last problem may be something that
is never closed. -/
structure Accounts (source : List Char) (problems : List Problem) (skipped : List Trivia) : Prop where
  marks : List.Forall₂ (Problem.Marks source) problems skipped
  unknown_of_mem_dropLast : ∀ p ∈ problems.dropLast, ∃ ch offset, p = .unknownCharacter ch offset

theorem Accounts.nil (source : List Char) : Accounts source [] [] :=
  ⟨List.Forall₂.nil, fun _ hp => absurd hp List.not_mem_nil⟩

theorem Accounts.single {source : List Char} {p : Problem} {t : Trivia} (h : p.Marks source t) :
    Accounts source [p] [t] :=
  ⟨List.Forall₂.cons h List.Forall₂.nil, fun _ hp => absurd hp List.not_mem_nil⟩

theorem Accounts.cons_unknown {source : List Char} {problems : List Problem} {skipped : List Trivia} {ch : Char}
    {offset : Nat} {t : Trivia} (h : Accounts source problems skipped)
    (ht : (Problem.unknownCharacter ch offset).Marks source t) :
    Accounts source (.unknownCharacter ch offset :: problems) (t :: skipped) where
  marks := List.Forall₂.cons ht h.marks
  unknown_of_mem_dropLast := by
    cases problems with
    | nil => exact fun p hp => absurd hp List.not_mem_nil
    | cons q rest => exact List.forall_mem_cons.2 ⟨⟨ch, offset, rfl⟩, h.unknown_of_mem_dropLast⟩

theorem Accounts.problems_eq_nil_iff {source : List Char} {problems : List Problem} {skipped : List Trivia}
    (h : Accounts source problems skipped) : problems = [] ↔ skipped = [] := by
  rw [← List.length_eq_zero_iff, h.marks.length_eq, List.length_eq_zero_iff]

namespace Scan

def skipped (s : Scan) : List Trivia :=
  s.outerTrivia.filter fun t => t.kind = .skipped

theorem skipped_eq_nil_iff (s : Scan) : s.skipped = [] ↔ ∀ u ∈ s.outerTrivia, u.kind ≠ .skipped := by
  simp only [skipped, List.filter_eq_nil_iff, decide_eq_true_eq, ne_eq]

theorem skipped_consProblem (p : Problem) (s : Scan) : (s.consProblem p).skipped = s.skipped :=
  rfl

theorem skipped_consToken (t : Token) (s : Scan) :
    (s.consToken t).skipped = t.leading.filter (fun u => u.kind = .skipped) ++ s.skipped := by
  rw [skipped, outerTrivia, consToken, List.flatMap_cons, List.append_assoc, List.filter_append]
  rfl

theorem exists_accounts_ofPieces (v : Vocabulary) (text before : List Char) (leading : List Trivia) :
    ∃ skipped, (ofPieces (byteLength before) leading (pieces v text)).skipped =
        leading.filter (fun t => t.kind = .skipped) ++ skipped ∧
      Accounts (before ++ text) (ofPieces (byteLength before) leading (pieces v text)).problems skipped := by
  fun_induction pieces v text generalizing before leading with
  | case1 => exact ⟨[], (List.append_nil _).symm, Accounts.nil _⟩
  | case2 c rest ih =>
    have hexcuse := excuse_frontPiece v c rest
    have htext := text_append_frontPiece v c rest
    generalize (frontPiece v c rest).1 = p at *
    generalize (frontPiece v c rest).2 = after at *
    rw [← htext, ← List.append_assoc]
    have hnext := fun taken => ih (before ++ p.text) taken
    rw [byteLength_append] at hnext
    cases p with
    | trivia kind text =>
      obtain ⟨skipped, hskipped, haccounts⟩ := hnext (leading ++ [Trivia.placed (byteLength before) kind text])
      have hkept : [Trivia.placed (byteLength before) kind text].filter (fun t => t.kind = .skipped) = [] :=
        List.filter_cons_of_neg (mt of_decide_eq_true hexcuse)
      rw [List.filter_append, hkept, List.append_nil] at hskipped
      exact ⟨skipped, hskipped, haccounts⟩
    | unknown ch =>
      obtain ⟨skipped, hskipped, haccounts⟩ := hnext (leading ++ [Trivia.placed (byteLength before) .skipped [ch]])
      rw [List.filter_append, List.append_assoc] at hskipped
      exact ⟨_, hskipped, haccounts.cons_unknown (Problem.marks_unknown before after hexcuse)⟩
    | unterminated form text =>
      -- the piece reaches the end of the text, so no problem follows
      obtain ⟨hopen, rfl⟩ := hexcuse
      refine ⟨[Trivia.placed (byteLength before) .skipped text], ?_, ?_⟩
      · rw [pieces, ofPieces, ofPieces, skipped_consProblem, skipped, outerTrivia, List.flatMap_nil, List.nil_append,
          List.filter_append]
        rfl
      · rw [pieces, ofPieces, ofPieces, Piece.text, List.append_nil]
        exact Accounts.single (Problem.marks_unterminated before hopen)
    | token kind text =>
      obtain ⟨skipped, hskipped, haccounts⟩ := hnext []
      refine ⟨skipped, ?_, haccounts⟩
      rw [ofPieces, skipped_consToken]
      exact congrArg (leading.filter _ ++ ·) hskipped
    | words found =>
      obtain ⟨skipped, hskipped, haccounts⟩ := hnext []
      refine ⟨skipped, ?_, haccounts⟩
      rw [ofPieces, skipped_consToken]
      exact congrArg (leading.filter _ ++ ·) hskipped

end Scan

/-- The problems of a scan are about its skipped text, one for one and in source order; nothing between the words of a
keyword is skipped. So a scan has no problem just if all of the source was read. -/
theorem scan_accounts_for_skipped (v : Vocabulary) (source : List Char) :
    Accounts source (scan v source).problems (scan v source).skipped ∧
      (scan v source).skipped.Pairwise (fun t u => t.span.stop ≤ u.span.start) ∧
      (∀ t ∈ (scan v source).tokens, ∀ u ∈ t.inner, u.kind ≠ .skipped) ∧
      ((scan v source).problems = [] ↔ ∀ u ∈ (scan v source).trivia, u.kind ≠ .skipped) := by
  have haccounts : Accounts source (scan v source).problems (scan v source).skipped := by
    obtain ⟨skipped, hskipped, haccounts⟩ := Scan.exists_accounts_ofPieces v source [] []
    obtain rfl : (scan v source).skipped = skipped := hskipped
    exact haccounts
  have hinner : ∀ t ∈ (scan v source).tokens, ∀ u ∈ t.inner, u.kind ≠ .skipped := by
    intro t ht u hu hkind
    have hcomment := Scan.isComment_of_mem_inner ht hu
    rw [Trivia.isComment, hkind] at hcomment
    exact Bool.noConfusion hcomment
  refine ⟨haccounts, ?_, hinner, ?_⟩
  · have hordered := List.pairwise_map.1 ((tiles_parts_scan v source).ordered.sublist
      (Scan.map_part_outerTrivia_sublist (scan v source)))
    exact hordered.filter _
  · rw [haccounts.problems_eq_nil_iff, Scan.skipped_eq_nil_iff]
    constructor
    · intro houter u hu
      rcases Scan.mem_trivia.1 hu with hu | ⟨t, ht, hu⟩
      · exact houter u hu
      · exact hinner t ht u hu
    · exact fun htrivia u hu => htrivia u (Scan.mem_trivia.2 (Or.inl hu))

example : (scan .empty "a @ 'b".toList).problems = [.unknownCharacter '@' 2, .unterminated .singleQuoted 4] := by
  decide +kernel

end LoadScript
