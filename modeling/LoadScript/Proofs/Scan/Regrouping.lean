import Mathlib.Data.List.Forall2
import LoadScript.Proofs.Scan.AcceptedWords
import LoadScript.Proofs.Scan.PlainPieces
import LoadScript.Proofs.Scan.Tiling

set_option autoImplicit false
set_option relaxedAutoImplicit false

namespace LoadScript

open Text Unicode

namespace Token

/-- Holds if a token is another one in its place, where only a name may have become something else. -/
structure Relabels (plain t : Token) : Prop where
  text_eq : t.text = plain.text
  span_eq : t.span = plain.span
  leading_eq : t.leading = plain.leading
  inner_eq_nil : t.inner = [] ∧ plain.inner = []
  eq_of_ne_identifier : plain.kind ≠ .identifier → t = plain

/-- Holds if a token is the keyword made of a name and the names behind it, with gaps between them. -/
structure Merges (first : Token) (later : List Token) (t : Token) : Prop where
  isName : ∀ p ∈ first :: later, p.kind = .identifier
  isGap : ∀ p ∈ later, ∀ a ∈ p.leading, a.kind ∈ gapKinds
  isKeyword : ∃ tier role, t.kind = .keyword tier role
  text_eq : t.text = first.text ++ String.join (later.map Token.source)
  start_eq : t.span.start = first.span.start
  stop_eq : later.getLast?.map (fun p => p.span.stop) = some t.span.stop
  leading_eq : t.leading = first.leading
  inner_eq : t.inner = (later.flatMap Token.leading).filter Trivia.isComment

/-- Holds if a group of neighbouring tokens has become a token. -/
def Groups : List Token → Token → Prop
  | [], _ => False
  | [plain], t => plain.Relabels t
  | first :: second :: rest, t => first.Merges (second :: rest) t

theorem groups_self {t : Token} (h : t.inner = []) : Groups [t] t :=
  ⟨rfl, rfl, rfl, ⟨h, h⟩, fun _ => rfl⟩

end Token

/-- Holds if a scan comes from another one by making one token of each group in a division of its tokens into
groups of neighbours. -/
structure Scan.Regroups (plain s : Scan) : Prop where
  groups : ∃ groups : List (List Token), groups.flatten = plain.tokens ∧
    List.Forall₂ Token.Groups groups s.tokens
  trailing_eq : s.trailing = plain.trailing
  problems_eq : s.problems = plain.problems

/-- Holds of words that are a keyword with gaps between its words if they are several. -/
structure WordMatch.Joined (m : WordMatch) : Prop where
  isKeyword : m.later ≠ [] → ∃ tier role, m.kind = .keyword tier role
  isGap : ∀ w ∈ m.later, ∀ f ∈ w.filler, f.kind ∈ gapKinds

/-- The names that later words are without keywords, behind a token that ends at an offset. -/
def laterNames (offset : Nat) : List LaterWord → List Token
  | [] => []
  | w :: rest =>
    (WordMatch.name w.word).token (offset + byteLength (w.filler.flatMap Filler.text))
        (placeFiller offset w.filler) ::
      laterNames (offset + byteLength w.text) rest

theorem ofPieces_filler (offset : Nat) (leading : List Trivia) (filler : List Filler)
    (ps : List Piece) :
    Scan.ofPieces offset leading (filler.map Filler.piece ++ ps) =
      Scan.ofPieces (offset + byteLength (filler.flatMap Filler.text))
        (leading ++ placeFiller offset filler) ps := by
  induction filler generalizing offset leading with
  | nil => simp [placeFiller, byteLength]
  | cons f rest ih =>
    simp [Scan.ofPieces, Filler.piece, Piece.text, ih, placeFiller, Nat.add_assoc]

theorem ofPieces_later (offset : Nat) (later : List LaterWord) (ps : List Piece) :
    Scan.ofPieces offset [] (later.flatMap LaterWord.plain ++ ps) =
      (laterNames offset later).foldr Scan.consToken
        (Scan.ofPieces (offset + byteLength (later.flatMap LaterWord.text)) [] ps) := by
  induction later generalizing offset with
  | nil => rfl
  | cons w rest ih =>
    have hnext : offset + byteLength (w.filler.flatMap Filler.text) + byteLength w.word =
        offset + byteLength w.text := by
      rw [w.byteLength_text, Nat.add_assoc]
    have hlength : offset + byteLength w.text + byteLength (rest.flatMap LaterWord.text) =
        offset + byteLength ((w :: rest).flatMap LaterWord.text) := by
      rw [List.flatMap_cons, byteLength_append, Nat.add_assoc]
    rw [List.flatMap_cons, LaterWord.plain, List.append_assoc, List.append_assoc, ofPieces_filler,
      List.singleton_append, Scan.ofPieces, Piece.text, List.nil_append]
    simp only [WordMatch.text_name]
    rw [hnext, ih, hlength]
    rfl

theorem exists_of_mem_laterNames {offset : Nat} {later : List LaterWord} {t : Token}
    (ht : t ∈ laterNames offset later) : ∃ w ∈ later, ∃ start next,
      t = (WordMatch.name w.word).token next (placeFiller start w.filler) := by
  induction later generalizing offset with
  | nil => exact absurd ht List.not_mem_nil
  | cons w rest ih =>
    rcases List.mem_cons.1 ht with rfl | ht
    · exact ⟨w, List.mem_cons_self, offset, _, rfl⟩
    · obtain ⟨u, hu, hsame⟩ := ih ht
      exact ⟨u, List.mem_cons_of_mem w hu, hsame⟩

private theorem exists_of_mem_placeFiller {offset : Nat} {filler : List Filler} {a : Trivia}
    (ha : a ∈ placeFiller offset filler) : ∃ f ∈ filler, a.kind = f.kind := by
  induction filler generalizing offset with
  | nil => exact absurd ha List.not_mem_nil
  | cons f rest ih =>
    rcases List.mem_cons.1 ha with rfl | ha
    · exact ⟨f, List.mem_cons_self, rfl⟩
    · obtain ⟨g, hg, hkind⟩ := ih ha
      exact ⟨g, List.mem_cons_of_mem f hg, hkind⟩

theorem isGap_of_mem_laterNames {offset : Nat} {later : List LaterWord}
    (hgap : ∀ w ∈ later, ∀ f ∈ w.filler, f.kind ∈ gapKinds) {t : Token}
    (ht : t ∈ laterNames offset later) : ∀ a ∈ t.leading, a.kind ∈ gapKinds := by
  obtain ⟨w, hw, start, next, rfl⟩ := exists_of_mem_laterNames ht
  intro a ha
  obtain ⟨f, hf, hkind⟩ := exists_of_mem_placeFiller ha
  rw [hkind]
  exact hgap w hw f hf

theorem filter_leading_laterNames (offset : Nat) (later : List LaterWord) :
    ((laterNames offset later).flatMap Token.leading).filter Trivia.isComment =
      innerComments offset later := by
  induction later generalizing offset with
  | nil => rfl
  | cons w rest ih =>
    rw [laterNames, List.flatMap_cons, List.filter_append, ih, innerComments]
    rfl

theorem stop_getLast?_laterNames (offset : Nat) (w : LaterWord) (rest : List LaterWord) :
    (laterNames offset (w :: rest)).getLast?.map (fun p => p.span.stop) =
      some (offset + byteLength ((w :: rest).flatMap LaterWord.text)) := by
  induction rest generalizing offset w with
  | nil =>
    simp [laterNames, WordMatch.token, WordMatch.text, WordMatch.name, spanFrom, LaterWord.byteLength_text,
      Nat.add_assoc]
  | cons u more ih =>
    have hlast := ih (offset + byteLength w.text) u
    rw [Nat.add_assoc, ← byteLength_append, ← List.flatMap_cons] at hlast
    rw [← hlast, laterNames, laterNames, List.getLast?_cons_cons]

theorem join_source_laterNames (offset : Nat) (later : List LaterWord) :
    String.join ((laterNames offset later).map Token.source) =
      String.ofList (later.flatMap LaterWord.text) := by
  induction later generalizing offset with
  | nil => rfl
  | cons w rest ih =>
    have hsource : ∀ next, ((WordMatch.name w.word).token next (placeFiller offset w.filler)).source =
        String.ofList w.text := by
      intro next
      rw [Token.source, WordMatch.token, join_placeFiller, WordMatch.text_name, LaterWord.text,
        String.ofList_append]
    rw [laterNames, List.map_cons, String.join_cons, ih, hsource, List.flatMap_cons,
      String.ofList_append]

/-- A vocabulary makes one token of words that are names without it. -/
theorem groups_token {m : WordMatch} (hm : m.Joined) (offset : Nat) (leading : List Trivia) :
    Token.Groups ((WordMatch.name m.first).token offset leading ::
      laterNames (offset + byteLength m.first) m.later) (m.token offset leading) := by
  obtain ⟨kind, canonical, first, later⟩ := m
  cases later with
  | nil =>
    exact ⟨rfl, rfl, rfl, ⟨rfl, rfl⟩, fun h => absurd rfl h⟩
  | cons w rest =>
    have hname : ∀ p ∈ laterNames (offset + byteLength first) (w :: rest), p.kind = .identifier := by
      intro p hp
      obtain ⟨u, -, start, next, rfl⟩ := exists_of_mem_laterNames hp
      rfl
    have hgap : ∀ p ∈ laterNames (offset + byteLength first) (w :: rest), ∀ a ∈ p.leading,
        a.kind ∈ gapKinds :=
      fun p hp => isGap_of_mem_laterNames hm.isGap hp
    refine Token.Merges.mk ?_ hgap (hm.isKeyword (List.cons_ne_nil w rest)) ?_ rfl ?_ rfl ?_
    · exact List.forall_mem_cons.2 ⟨rfl, hname⟩
    · have hjoin := join_source_laterNames (offset + byteLength first) (w :: rest)
      have hfirst : ((WordMatch.name first).token offset leading).text = String.ofList first := by
        rw [WordMatch.token, WordMatch.text_name]
      refine Eq.trans ?_ (congrArg₂ (· ++ ·) hfirst.symm hjoin.symm)
      exact String.ofList_append
    · refine (stop_getLast?_laterNames (offset + byteLength first) w rest).trans ?_
      rw [Nat.add_assoc, ← byteLength_append]
      rfl
    · exact (filter_leading_laterNames (offset + byteLength first) (w :: rest)).symm

namespace Scan

theorem foldr_consToken (group : List Token) (s : Scan) :
    group.foldr consToken s = ⟨group ++ s.tokens, s.trailing, s.problems⟩ := by
  induction group with
  | nil => rfl
  | cons t rest ih => rw [List.foldr_cons, ih, consToken, List.cons_append]

theorem regroups_consToken {plain s : Scan} {group : List Token} {t : Token}
    (hgroup : Token.Groups group t) (h : Regroups plain s) :
    Regroups (group.foldr consToken plain) (s.consToken t) := by
  obtain ⟨⟨groups, hflatten, hgroups⟩, htrailing, hproblems⟩ := h
  rw [foldr_consToken]
  exact ⟨⟨group :: groups, by rw [List.flatten_cons, hflatten], List.Forall₂.cons hgroup hgroups⟩,
    htrailing, hproblems⟩

theorem regroups_consProblem {plain s : Scan} (p : Problem) (h : Regroups plain s) :
    Regroups (plain.consProblem p) (s.consProblem p) :=
  ⟨h.groups, h.trailing_eq, congrArg (List.cons p) h.problems_eq⟩

theorem regroups_ofPieces {ps : List Piece} (hjoined : ∀ m, .words m ∈ ps → m.Joined)
    (offset : Nat) (leading : List Trivia) :
    Regroups (ofPieces offset leading (ps.flatMap Piece.plain)) (ofPieces offset leading ps) := by
  induction ps generalizing offset leading with
  | nil => exact ⟨⟨[], rfl, List.Forall₂.nil⟩, rfl, rfl⟩
  | cons p rest ih =>
    have hrest := ih fun m hm => hjoined m (List.mem_cons_of_mem p hm)
    cases p with
    | trivia kind text => exact hrest _ _
    | unknown ch => exact regroups_consProblem _ (hrest _ _)
    | unterminated form text => exact regroups_consProblem _ (hrest _ _)
    | token kind text =>
      exact regroups_consToken (Token.groups_self rfl) (hrest _ _)
    | words m =>
      have hgroup := groups_token (hjoined m List.mem_cons_self) offset leading
      have hlength : offset + byteLength m.first + byteLength (m.later.flatMap LaterWord.text) =
          offset + byteLength m.text := by
        rw [WordMatch.text, byteLength_append, Nat.add_assoc]
      rw [List.flatMap_cons, Piece.plain, List.cons_append, ofPieces, Piece.text, WordMatch.text_name,
        ofPieces_later, hlength]
      exact regroups_consToken hgroup (hrest (offset + byteLength m.text) [])

end Scan

theorem joined_of_words_mem_pieces {table : KeywordTable} {v : Vocabulary}
    (haccept : Vocabulary.accept table = .ok v) {text : List Char} {m : WordMatch}
    (hm : .words m ∈ pieces v text) : m.Joined := by
  obtain ⟨t, -, rfl⟩ := exists_of_words_mem_pieces hm
  refine ⟨Vocabulary.isKeyword_wordMatch haccept, ?_⟩
  intro w hw f hf
  obtain ⟨back, -, rfl⟩ := exists_of_mem_laterWords ((v.later_wordMatch_isPrefix t).subset hw)
  exact kind_of_mem_gap hf

structure Token.IsPlain (t : Token) : Prop where
  isListed_eq : t.kind.isListed = false
  inner_eq : t.inner = []
  canonical_eq : t.canonical = none

theorem Scan.isPlain_of_mem_ofPieces {ps : List Piece} (hps : ∀ p ∈ ps, p.IsPlain) {offset : Nat}
    {leading : List Trivia} {t : Token} (ht : t ∈ (ofPieces offset leading ps).tokens) : t.IsPlain := by
  obtain ⟨start, taken, ⟨kind, text, hp, rfl⟩ | ⟨m, hm, rfl⟩⟩ := exists_of_mem_ofPieces ht
  · exact ⟨hps _ hp, rfl, rfl⟩
  · rw [show m = .name m.first from hps _ hm]
    exact ⟨rfl, rfl, rfl⟩

/-- An accepted vocabulary only makes something else of names and joins names to keywords, if no keyword goes on
with the word that starts a remark. -/
theorem scan_regroups_empty {table : KeywordTable} {v : Vocabulary}
    (haccept : Vocabulary.accept table = .ok v)
    (hrem : ∀ k ∈ table.keywords, ∀ w ∈ k.words.tail, lowercase w ≠ "rem".toList)
    (source : List Char) :
    (scan .empty source).Regroups (scan v source) ∧
      ∀ t ∈ (scan .empty source).tokens, t.IsPlain := by
  have hpieces : pieces .empty source = (pieces v source).flatMap Piece.plain :=
    pieces_empty (fun _ => Vocabulary.lowercase_later_ne haccept hrem) source
  have hjoined : ∀ m, .words m ∈ pieces v source → m.Joined :=
    fun m hm => joined_of_words_mem_pieces haccept hm
  refine ⟨?_, ?_⟩
  · have hregroups := Scan.regroups_ofPieces hjoined 0 []
    rw [← hpieces] at hregroups
    exact hregroups
  · exact fun t ht => Scan.isPlain_of_mem_ofPieces (fun p hp => isPlain_of_mem_pieces_empty hp) ht

def endIfTable : KeywordTable :=
  ⟨"1", [⟨"end if", .control, .leader, false⟩]⟩

theorem end_if_regroups_names :
    Vocabulary.accept endIfTable = .ok (.ofTable endIfTable) ∧
      (∀ k ∈ endIfTable.keywords, ∀ w ∈ k.words.tail, lowercase w ≠ "rem".toList) ∧
      (scan .empty "END /* all */ If; rem x".toList).Regroups
        (scan (.ofTable endIfTable) "END /* all */ If; rem x".toList) := by
  have hfault : endIfTable.fault? = none := by decide +kernel
  have haccept : Vocabulary.accept endIfTable = .ok (.ofTable endIfTable) := by
    rw [Vocabulary.accept, hfault]
  have hrem : ∀ k ∈ endIfTable.keywords, ∀ w ∈ k.words.tail, lowercase w ≠ "rem".toList := by
    decide +kernel
  exact ⟨haccept, hrem, (scan_regroups_empty haccept hrem "END /* all */ If; rem x".toList).1⟩

end LoadScript
