import LoadScript.Proofs.KeywordIndependence
import LoadScript.Proofs.PrintedVocabulary
import LoadScript.Proofs.Settings.Loading
import LoadScript.Proofs.Tree.OutlineLines

set_option autoImplicit false
set_option relaxedAutoImplicit false

namespace LoadScript

open Text Json CommandLine

namespace Json.Value

/-- Holds of a value and each part of it: the value itself, and the parts of its items or of its members. -/
inductive Holds : Value → Value → Prop
  | whole (value : Value) : Holds value value
  | item {items : List Value} {value part : Value} : value ∈ items → Holds value part → Holds (.array items) part
  | member {members : List (String × Value)} {m : String × Value} {part : Value} :
      m ∈ members → Holds m.2 part → Holds (.object members) part

variable {part : Value}

theorem holds_string_iff {text : String} : Holds (.string text) part ↔ part = .string text := by
  constructor
  · rintro ⟨⟩
    rfl
  · rintro rfl
    exact .whole _

theorem holds_number_iff {n : Nat} : Holds (.number n) part ↔ part = .number n := by
  constructor
  · rintro ⟨⟩
    rfl
  · rintro rfl
    exact .whole _

theorem holds_array_iff {items : List Value} :
    Holds (.array items) part ↔ part = .array items ∨ ∃ value ∈ items, Holds value part := by
  constructor
  · rintro (_ | ⟨hvalue, hpart⟩)
    · exact .inl rfl
    · exact .inr ⟨_, hvalue, hpart⟩
  · rintro (rfl | ⟨value, hvalue, hpart⟩)
    · exact .whole _
    · exact .item hvalue hpart

theorem holds_object_iff {members : List (String × Value)} :
    Holds (.object members) part ↔ part = .object members ∨ ∃ m ∈ members, Holds m.2 part := by
  constructor
  · rintro (_ | _ | ⟨hm, hpart⟩)
    · exact .inl rfl
    · exact .inr ⟨_, hm, hpart⟩
  · rintro (rfl | ⟨m, hm, hpart⟩)
    · exact .whole _
    · exact .member hm hpart

end Json.Value

open Json.Value

theorem TriviaKind.name_injective {a b : TriviaKind} (h : a.name = b.name) : a = b := by
  cases a <;> cases b <;> first | rfl | exact absurd h (by decide)

theorem Trivia.toJson_injective {a b : Trivia} (h : a.toJson = b.toJson) : a = b := by
  obtain ⟨kind, text, start, stop⟩ := a
  obtain ⟨kind', text', start', stop'⟩ := b
  simp only [toJson, Span.toJson, Value.object.injEq, List.cons.injEq, Prod.mk.injEq, Value.string.injEq,
    Value.number.injEq] at h
  obtain ⟨⟨-, hkind⟩, ⟨-, rfl⟩, ⟨-, ⟨-, rfl⟩, ⟨-, rfl⟩, -⟩, -⟩ := h
  rw [TriviaKind.name_injective hkind]

variable {c : Trivia}

theorem Trivia.not_holds_span (s : Span) : ¬s.toJson.Holds c.toJson := by
  simp [Span.toJson, Trivia.toJson, holds_object_iff, holds_number_iff]

theorem Trivia.not_holds_kind (kind : TokenKind) : ¬kind.toJson.Holds c.toJson := by
  rcases kind with _ | _ | ⟨_ | _⟩ | _ | ⟨_ | _⟩ | _ | ⟨_ | _ | _⟩ | _ | _ | _ | _ | _ <;>
    simp [TokenKind.toJson, Trivia.toJson, holds_object_iff, holds_array_iff, holds_string_iff]

theorem Trivia.not_holds_string (text : String) : ¬(Value.string text).Holds c.toJson := by
  simp [Trivia.toJson, holds_string_iff]

theorem Trivia.holds_toJson_iff {other : Trivia} : other.toJson.Holds c.toJson ↔ c = other := by
  constructor
  · intro h
    rcases holds_object_iff.1 h with h | ⟨m, hm, hpart⟩
    · exact toJson_injective h
    · simp only [List.mem_cons, List.not_mem_nil, or_false] at hm
      rcases hm with rfl | rfl | rfl
      · exact absurd hpart (not_holds_string _)
      · exact absurd hpart (not_holds_string _)
      · exact absurd hpart (not_holds_span _)
  · rintro rfl
    exact .whole _

theorem holds_array_map_iff {α : Type} {items : List α} {toJson : α → Value} :
    Holds (.array (items.map toJson)) c.toJson ↔ ∃ item ∈ items, (toJson item).Holds c.toJson := by
  have hself : c.toJson ≠ .array (items.map toJson) := by
    rintro ⟨⟩
  rw [holds_array_iff, or_iff_right hself]
  constructor
  · rintro ⟨value, hvalue, hpart⟩
    obtain ⟨item, hitem, rfl⟩ := List.mem_map.1 hvalue
    exact ⟨item, hitem, hpart⟩
  · rintro ⟨item, hitem, hpart⟩
    exact ⟨toJson item, List.mem_map_of_mem hitem, hpart⟩

theorem exists_mem_triviaMember_iff {name : String} {trivia : List Trivia} :
    (∃ m ∈ triviaMember name trivia, Holds m.2 c.toJson) ↔ c ∈ trivia := by
  rw [triviaMember]
  split
  · next hempty => simp [List.isEmpty_iff.1 hempty]
  · simp [holds_array_map_iff, Trivia.holds_toJson_iff]

theorem TriviaKind.string_name_ne (kind : TriviaKind) (other : TokenKind) : Value.string kind.name ≠ other.toJson := by
  rcases other with _ | _ | ⟨_ | _⟩ | _ | ⟨_ | _⟩ | _ | ⟨_ | _ | _⟩ | _ | _ | _ | _ | _ <;> cases kind <;>
    simp [TokenKind.toJson, TriviaKind.name]

theorem Token.holds_toJson_iff {t : Token} : t.toJson.Holds c.toJson ↔ c ∈ t.leading ++ t.inner := by
  have hself : c.toJson ≠ t.toJson := by
    intro h
    have hmembers := Value.object.inj h
    have hkind := congrArg Prod.snd (List.cons.inj hmembers).1
    exact c.kind.string_name_ne t.kind hkind
  -- the members that every token has, and the spelling behind the lists, are too small to hold a piece of trivia
  have hplain : ¬∃ m ∈ [("kind", t.kind.toJson), ("text", .string t.text), ("span", t.span.toJson)],
      Holds m.2 c.toJson := by
    simp [Trivia.not_holds_kind, Trivia.not_holds_string, Trivia.not_holds_span]
  have hcanonical : ¬∃ m ∈ t.canonical.toList.map fun canonical => ("canonical", Value.string canonical),
      Holds m.2 c.toJson := by
    simp [Trivia.not_holds_string]
  refine (holds_object_iff.trans (or_iff_right hself)).trans ?_
  simp only [List.mem_append, or_and_right, exists_or, hplain, hcanonical, exists_mem_triviaMember_iff, false_or,
    or_false]

/-- What a token carries lies in front of its end, and what no token carries lies behind all of them. -/
theorem not_mem_trailing_of_mem_scan {v : Vocabulary} {source : List Char} {t : Token}
    (ht : t ∈ (scan v source).tokens) (hc : c ∈ t.leading ++ t.inner) : c ∉ (scan v source).trailing := by
  intro htrailing
  obtain ⟨htiles, hinside, -⟩ := scan_tiles_source v source
  have hordered := htiles.ordered
  rw [Scan.parts, List.pairwise_append] at hordered
  -- the parts tile the source, so `c` would start behind a part that it is, or that it lies in
  have hbehind : ∀ part ∈ t.parts, part.span.stop ≤ c.span.start := by
    intro part hpart
    exact hordered.2.2 part (List.mem_flatMap.2 ⟨t, ht, hpart⟩) c.part (List.mem_map_of_mem htrailing)
  rcases List.mem_append.1 hc with hc | hc
  · have hpart : c.part ∈ t.parts := List.mem_append_left _ (List.mem_map_of_mem hc)
    have hle := hbehind c.part hpart
    have hmem : c.part ∈ (scan v source).parts := List.mem_append_left _ (List.mem_flatMap.2 ⟨t, ht, hpart⟩)
    have hlt := (htiles.within hmem).2.1
    exact absurd hle (Nat.not_le_of_lt hlt)
  · have hle := hbehind ⟨t.text, t.span⟩ (List.mem_append_right _ List.mem_cons_self)
    obtain ⟨-, hlt, hlt'⟩ := (hinside t ht).within c hc
    exact absurd (Nat.lt_trans hlt hlt') (Nat.not_lt_of_le hle)

inductive ListingEntry where
  | comment (c : Trivia)
  | token (t : Token)

namespace ListingEntry

/-- The line of an entry: where it starts, what it is called, its text in quotes, and for a keyword its canonical
spelling in parentheses. -/
def line (source : List Char) : ListingEntry → String
  | .comment c => listingLine source c.span c.kind.name c.text
  | .token t =>
    let canonical := (t.canonical.map fun canonical => " (" ++ canonical ++ ")").getD ""
    listingLine source t.span t.kind.label t.text ++ canonical

def comment? : ListingEntry → Option Trivia
  | .comment c => some c
  | .token _ => none

def token? : ListingEntry → Option Token
  | .comment _ => none
  | .token t => some t

end ListingEntry

def Token.entries (t : Token) : List ListingEntry :=
  t.comments.map .comment ++ [.token t]

def Scan.entries (s : Scan) : List ListingEntry :=
  s.tokens.flatMap Token.entries

namespace Scan

variable (s : Scan)

theorem listing_eq_map_entries (source : List Char) : s.listing source = s.entries.map (ListingEntry.line source) := by
  rw [listing, entries, List.map_flatMap]
  refine List.flatMap_congr fun t _ => ?_
  obtain ⟨kind, text, span, leading, inner, canonical⟩ := t
  rw [Token.listing, Token.entries, List.map_append, List.map_map]
  cases canonical <;> rfl

theorem filterMap_token?_entries : s.entries.filterMap ListingEntry.token? = s.tokens := by
  have htoken : ∀ t : Token, t.entries.filterMap ListingEntry.token? = [t] := by
    intro t
    simp [Token.entries, ListingEntry.token?, List.filterMap_map, Function.comp_def]
  rw [entries, List.filterMap_flatMap]
  simp only [htoken, List.flatMap_singleton']

theorem filterMap_comment?_entries : s.entries.filterMap ListingEntry.comment? = s.tokens.flatMap Token.comments := by
  have htoken : ∀ t : Token, t.entries.filterMap ListingEntry.comment? = t.comments := by
    intro t
    simp [Token.entries, ListingEntry.comment?, List.filterMap_map, Function.comp_def]
  rw [entries, List.filterMap_flatMap]
  simp only [htoken]

end Scan

theorem Position.isLine_text (p : Position) : IsLine p.text :=
  ((isLine_toString p.line).append (by decide)).append (isLine_toString p.column)

theorem isLine_listingLine (source : List Char) (span : Span) {label : String} (hlabel : IsLine label) (text : String) :
    IsLine (listingLine source span label text) :=
  ((((Position.isLine_text _).append (by decide)).append hlabel).append (by decide)).append (isLine_quote text)

theorem TriviaKind.isLine_name (kind : TriviaKind) : IsLine kind.name := by
  cases kind <;> decide

theorem TokenKind.isLine_label (kind : TokenKind) : IsLine kind.label := by
  rcases kind with _ | ⟨tier, role⟩ | ⟨_ | _⟩ | _ | ⟨_ | _⟩ | _ | ⟨_ | _ | _⟩ | _ | _ | _ | _ | _
  case keyword => cases tier <;> cases role <;> decide
  all_goals decide

theorem isLine_line_of_mem_entries {table : KeywordTable} {v : Vocabulary} (haccept : Vocabulary.accept table = .ok v)
    (source : List Char) {e : ListingEntry} (he : e ∈ (scan v source).entries) : IsLine (e.line source) := by
  cases e with
  | comment c => exact isLine_listingLine source c.span c.kind.isLine_name c.text
  | token t =>
    have ht : t ∈ (scan v source).tokens := by
      rw [← Scan.filterMap_token?_entries, List.mem_filterMap]
      exact ⟨.token t, he, rfl⟩
    refine (isLine_listingLine source t.span t.kind.isLine_label t.text).append ?_
    cases hcanonical : t.canonical with
    | none => decide
    | some spelling =>
      obtain ⟨k, -, hspelled, rfl⟩ := exists_canonical_of_mem_scan haccept ht hcanonical
      have hopening : IsLine " (" := by decide
      exact (hopening.append hspelled.isLine_canonical).append (by decide)

theorem LiteralForm.isLine_name (form : LiteralForm) : IsLine form.name := by
  cases form <;> decide

theorem isLine_quotedChar (ch : Char) : IsLine (String.ofList (quotedChar ch)) := by
  rw [IsLine, String.toList_ofList, quotedChar, List.mem_append, List.mem_cons]
  rintro ((h | h) | h)
  · exact absurd h (by decide)
  · exact newline_not_mem_escaped (by decide) ch h
  · exact absurd h (by decide)

theorem Problem.isLine_message (p : Problem) : IsLine p.message := by
  have hmark : ∀ {text : String} (n : Nat), IsLine text → IsLine (text ++ toString n) :=
    fun n h => h.append (isLine_toString n)
  cases p with
  | unterminated form offset =>
    exact hmark offset (((by decide : IsLine "unterminated ").append form.isLine_name).append (by decide))
  | unknownCharacter ch offset =>
    exact hmark offset (((by decide : IsLine "unknown character ").append (isLine_quotedChar ch)).append (by decide))
  | unmatchedOpen offset => exact hmark offset (by decide)
  | unmatchedClose offset => exact hmark offset (by decide)
  | nestedTooDeep offset limit => exact hmark offset ((hmark limit (by decide)).append (by decide))

theorem Problem.isLine_report {path : String} (hpath : IsLine path) (source : List Char) (p : Problem) :
    IsLine (p.report path source) :=
  (((hpath.append (by decide)).append (Position.isLine_text _)).append (by decide)).append p.isLine_message

theorem filter_comments_readScript (v : Vocabulary) (limit : Nat) (source : List Char) :
    (readScript v limit source).document.comments.filter (· ∉ (scan v source).trailing) =
      (scan v source).tokens.flatMap Token.comments := by
  have hcarried : ∀ c ∈ (scan v source).tokens.flatMap Token.comments, c ∉ (scan v source).trailing := by
    intro c hc
    obtain ⟨t, ht, hc⟩ := List.mem_flatMap.1 hc
    exact not_mem_trailing_of_mem_scan ht (List.mem_filter.1 hc).1
  rw [comments_readScript, Scan.comments_eq_append, List.filter_append, List.filter_eq_self.2 (by simpa using hcarried),
    List.filter_eq_nil_iff.2, List.append_nil]
  intro c hc
  simp [(List.mem_filter.1 hc).1]

theorem mem_comments_readScript_iff {v : Vocabulary} {limit : Nat} {source : List Char}
    (hc : c ∈ (readScript v limit source).document.comments) :
    (∃ t ∈ (scan v source).tokens, c ∈ t.leading ++ t.inner) ↔ c ∉ (scan v source).trailing := by
  constructor
  · rintro ⟨t, ht, hcarried⟩
    exact not_mem_trailing_of_mem_scan ht hcarried
  · intro htrailing
    have hkept : c ∈ (scan v source).tokens.flatMap Token.comments := by
      rw [← filter_comments_readScript v limit source]
      exact List.mem_filter.2 ⟨hc, decide_eq_true htrailing⟩
    obtain ⟨t, ht, hcarried⟩ := List.mem_flatMap.1 hkept
    exact ⟨t, ht, (List.mem_filter.1 hcarried).1⟩

namespace CommandLine

variable {σ : Type} {files : FileAccess (StateM σ)} {state : σ}

theorem run_tokens {env : Environment} {flags : Flags} {setup : Setup} {path source : String}
    (hrests : files.Rests state) (hload : loadSetup files env flags state = (.ok setup, state))
    (hread : files.textAt state path = .ok source) :
    (Invocation.run files env ⟨flags, .tokens path⟩ state).1 = tokensReport setup path source := by
  rw [run_of_loadSetup hrests hload, Command.run, bind_apply, hrests.read_text, hread]
  rfl

/-- A listing of a script as text has one line for each token and for each comment that does not stand behind the last
token, and one note for each problem of the scan. As JSON it is one value, which holds the same tokens and comments and
no other comment, and nothing is noted. -/
theorem tokens_listed {table : KeywordTable} {env : Environment} {flags : Flags} {setup : Setup} {path source : String}
    (haccept : Vocabulary.accept table = .ok setup.vocabulary) (hrests : files.Rests state)
    (hload : loadSetup files env flags state = (.ok setup, state)) (hread : files.textAt state path = .ok source) :
    let list (format : OutputFormat) : Report :=
      (Invocation.run files env ⟨{ flags with format := some format }, .tokens path⟩ state).1
    let scanned := scan setup.vocabulary source.toList
    let d := (setup.read source).document
    (Invocation.run files env ⟨flags, .tokens path⟩ state).1 = list setup.settings.format ∧
    (∀ format, (list format).code = 0) ∧
    (closeLines (list .text).output).toList.splitOn '\n' =
      scanned.entries.map (fun e => (e.line source.toList).toList) ++ [[]] ∧
    scanned.entries.filterMap ListingEntry.token? = scanned.tokens ∧
    scanned.entries.filterMap ListingEntry.comment? = d.comments.filter (· ∉ d.trailing) ∧
    (list .text).notes = scanned.problems.map (Problem.report path source.toList) ∧
    (IsLine path → (closeLines (list .text).notes).toList.splitOn '\n' =
      scanned.problems.map (fun p => (p.report path source.toList).toList) ++ [[]]) ∧
    ∃ value : Value, list .json = .printing value.indentedText ∧
      (∀ t ∈ scanned.tokens, value.Holds t.toJson) ∧
      ∀ c ∈ d.comments, value.Holds c.toJson ↔ c ∉ d.trailing := by
  intro list scanned d
  have hlist : ∀ format, list format = tokensReport (setup.inFormat format) path source := fun format =>
    run_tokens hrests (loadSetup_inFormat hrests hload format) hread
  have htext : list .text =
      { output := scanned.listing source.toList, notes := problemLines path source scanned.problems } := hlist .text
  have hjson : list .json = .printing (Value.array (scanned.tokens.map Token.toJson)).indentedText := hlist .json
  refine ⟨?_, ?_, ?_, scanned.filterMap_token?_entries, ?_, ?_, ?_, _, hjson, ?_, ?_⟩
  · rw [hlist, run_tokens hrests hload hread]
    rfl
  · rintro (_ | _)
    · rw [htext]
    · rw [hjson]
      rfl
  · have hlines : ∀ line ∈ scanned.listing source.toList, IsLine line := by
      rw [Scan.listing_eq_map_entries, List.forall_mem_map]
      exact fun e he => isLine_line_of_mem_entries haccept source.toList he
    rw [htext, splitOn_closeLines hlines, Scan.listing_eq_map_entries, List.map_map]
    rfl
  · rw [Scan.filterMap_comment?_entries]
    exact (filter_comments_readScript setup.vocabulary setup.settings.maxDepth source.toList).symm
  · rw [htext, problemLines]
  · intro hpath
    have hnotes : ∀ note ∈ problemLines path source scanned.problems, IsLine note := by
      rw [problemLines, List.forall_mem_map]
      exact fun p _ => p.isLine_report hpath source.toList
    rw [htext, splitOn_closeLines hnotes, problemLines, List.map_map]
    rfl
  · intro t ht
    exact .item (List.mem_map_of_mem ht) (.whole _)
  · intro c hc
    exact holds_array_map_iff.trans ((exists_congr fun t => and_congr_right fun _ => Token.holds_toJson_iff).trans
      (mem_comments_readScript_iff hc))

theorem comments_around_left_join_listed :
    let table : KeywordTable := ⟨"1", [⟨"left join", .script, .leader, false⟩]⟩
    let source := "// a\nleft /* x\n */ join // b\n; // c\n'd"
    let store : FileStore :=
      ⟨[(["v.json"], .file (some table.toJson.indentedText)), (["a.qvs"], .file (some source))]⟩
    let env : Environment := fun _ => none
    let flags : Flags := { vocabulary := some "v.json" }
    let setup : Setup := ⟨{ vocabulary := some "v.json" }, .ofTable table⟩
    Vocabulary.accept table = .ok setup.vocabulary ∧ FileStore.access.Rests store ∧
      loadSetup FileStore.access env flags store = (.ok setup, store) ∧
      FileStore.access.textAt store "a.qvs" = .ok source ∧
      (closeLines (Invocation.run FileStore.access env ⟨{ flags with format := some .text }, .tokens "a.qvs"⟩
        store).1.output).toList.splitOn '\n' =
        ["1:1 LineComment \"// a\"", "2:6 BlockComment \"/* x\\n */\"",
          "2:1 Keyword(Script, Leader) \"left /* x\\n */ join\" (LEFT JOIN)", "3:10 LineComment \"// b\"",
          "4:1 Semicolon \";\""].map String.toList ++ [[]] ∧
      ∃ value : Value,
        (Invocation.run FileStore.access env ⟨{ flags with format := some .json }, .tokens "a.qvs"⟩ store).1 =
          .printing value.indentedText ∧
        ∀ c ∈ (setup.read source).document.comments,
          value.Holds c.toJson ↔ c ∉ (setup.read source).document.trailing := by
  intro table source store env flags setup
  have haccept : Vocabulary.accept table = .ok setup.vocabulary := Vocabulary.accept_of_fault? (by decide +kernel)
  have hrests : FileStore.access.Rests store := FileStore.keeps_access.rests store
  have hload : loadSetup FileStore.access env flags store = (.ok setup, store) := by
    have hthere : FileStore.access.isThere store (Settings.path env) = false := by decide +kernel
    have htext : FileStore.access.textAt store "v.json" = .ok (table.toJson.indentedText ++ "") := by
      rw [String.append_empty]
      rfl
    have htable : Vocabulary.ofJson (table.toJson.indentedText ++ "") = .ok setup.vocabulary :=
      Vocabulary.ofJson_indentedText haccept (List.forall_mem_nil _)
    have hnamed := Settings.namedVocabulary_of_contentAt htext htable
    rw [loadSetup_of_flags hrests hthere, hnamed]
    rfl
  have hread : FileStore.access.textAt store "a.qvs" = .ok source := rfl
  have hentries : (scan setup.vocabulary source.toList).entries.map (fun e => (e.line source.toList).toList) =
      ["1:1 LineComment \"// a\"", "2:6 BlockComment \"/* x\\n */\"",
        "2:1 Keyword(Script, Leader) \"left /* x\\n */ join\" (LEFT JOIN)", "3:10 LineComment \"// b\"",
        "4:1 Semicolon \";\""].map String.toList := by decide +kernel
  obtain ⟨-, -, hlines, -, -, -, -, value, hjson, -, hheld⟩ := tokens_listed haccept hrests hload hread
  exact ⟨haccept, hrests, hload, hread, hlines.trans (congrArg (· ++ [[]]) hentries), value, hjson, hheld⟩

/-- A comment behind the last token is not reported at all, and an unknown character is not reported as JSON. -/
theorem trailing_comment_not_listed :
    let source := "? // a"
    let store : FileStore := ⟨[(["a.qvs"], .file (some source))]⟩
    let list (format : OutputFormat) : Report :=
      (Invocation.run FileStore.access (fun _ => none) ⟨{ format := some format }, .tokens "a.qvs"⟩ store).1
    FileStore.access.textAt store "a.qvs" = .ok source ∧
      (readScript Vocabulary.standard 128 source.toList).document.comments.map Trivia.text = ["// a"] ∧
      (scan Vocabulary.standard source.toList).problems = [.unknownCharacter '?' 0] ∧
      list .text = { notes := ["a.qvs:1:1: unknown character '?' at offset 0"] } ∧
      list .json = .printing "[]" := by
  intro source store list
  exact ⟨rfl, by decide +kernel, by decide +kernel, by decide +kernel, by decide +kernel⟩

end CommandLine

end LoadScript
