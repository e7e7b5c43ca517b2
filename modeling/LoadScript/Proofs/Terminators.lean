import LoadScript.Document
import LoadScript.Proofs.Scan.Regrouping
import LoadScript.Proofs.Tree.Segments

set_option autoImplicit false
set_option relaxedAutoImplicit false

namespace LoadScript

namespace Segment

theorem kind_of_body_snd {c : StatementClass} (hc : c ≠ .control) {balance : Nat} {ts rest : List Token}
    {t : Token} (h : (body c balance ts).2 = t :: rest) : t.kind = .semicolon := by
  induction ts generalizing balance with
  | nil => exact absurd h.symm (List.cons_ne_nil t rest)
  | cons u more ih =>
    have hends : ¬(c = .control ∧ balance = 0 ∧
        (u.role? = some .leader ∨ (colon? u more).isSome = true)) := fun hends => hc hends.1
    have hheader : ¬(c = .control ∧ balance = 0 ∧ u.role? = some .headerEnd) :=
      fun hheader => hc hheader.1
    rw [body, if_neg hends, if_neg hheader] at h
    split at h
    · next hsemicolon =>
      obtain ⟨rfl, -⟩ := List.cons.inj h
      exact hsemicolon
    · exact ih h

theorem head?_of_close_eq {c d : StatementClass} {keyword word : Option Token}
    {inside more after : List Token} (h : (close c keyword inside after).1 = .statement d word more none) :
    c = d ∧ keyword = word ∧ inside = more ∧ (close c keyword inside after).2 = after ∧
      ∀ t, after.head? = some t → t.kind ≠ .semicolon := by
  cases after with
  | nil =>
    obtain ⟨rfl, rfl, rfl, -⟩ := Segment.statement.inj h
    exact ⟨rfl, rfl, rfl, rfl, fun t ht => absurd ht.symm (Option.some_ne_none t)⟩
  | cons u rest =>
    by_cases hsemicolon : u.kind = .semicolon
    · rw [close_cons_of_semicolon hsemicolon] at h
      exact absurd (Segment.statement.inj h).2.2.2 (Option.some_ne_none u)
    · rw [close_cons_of_ne hsemicolon] at h ⊢
      obtain ⟨rfl, rfl, rfl, -⟩ := Segment.statement.inj h
      refine ⟨rfl, rfl, rfl, rfl, ?_⟩
      intro t ht
      obtain rfl := Option.some.inj ht
      exact hsemicolon

theorem snd_body_eq_nil {c : StatementClass} (hc : c ≠ .control) {balance : Nat} {ts : List Token}
    (h : ∀ t, (body c balance ts).2.head? = some t → t.kind ≠ .semicolon) : (body c balance ts).2 = [] := by
  cases hbody : (body c balance ts).2 with
  | nil => rfl
  | cons t rest =>
    rw [hbody] at h
    exact absurd (kind_of_body_snd hc hbody) (h t rfl)

theorem front_unterminated {t : Token} {rest inside : List Token} {c : StatementClass}
    {keyword : Option Token} (h : (front t rest).1 = .statement c keyword inside none)
    (hc : c ≠ .control) :
    (front t rest).2 = [] ∨
      (keyword = some t ∧ inside = [] ∧ c = .script ∧ t.role? = some .headerEnd) := by
  unfold front at h ⊢
  split at h
  · exact Segment.noConfusion h
  · dsimp only at h ⊢
    split at h
    · exact absurd (Segment.statement.inj h).2.2.2 (Option.some_ne_none t)
    · next hsemicolon =>
      rw [if_neg hsemicolon]
      split at h
      · next hclass =>
        rw [if_pos hclass]
        obtain ⟨-, -, -, hafter, hhead⟩ := head?_of_close_eq h
        rw [hafter]
        exact Or.inl (snd_body_eq_nil (by decide) hhead)
      · next hclass =>
        rw [if_neg hclass]
        split at h
        · next hheader =>
          obtain ⟨rfl, rfl, rfl, -, -⟩ := head?_of_close_eq h
          refine Or.inr ⟨rfl, rfl, ?_, hheader⟩
          cases hscript : t.kind.statementClass with
          | control => exact absurd hscript hc
          | script => rfl
          | expression => exact absurd hscript hclass
        · next hheader =>
          rw [if_neg hheader]
          obtain ⟨rfl, -, -, hafter, hhead⟩ := head?_of_close_eq h
          rw [hafter]
          exact Or.inl (snd_body_eq_nil hc hhead)

theorem unterminated_of_segments_eq {ts : List Token} {before after : List Segment} {c : StatementClass}
    {keyword : Option Token} {inside : List Token}
    (h : segments ts = before ++ .statement c keyword inside none :: after) (hc : c ≠ .control) :
    after = [] ∨
      ∃ t, keyword = some t ∧ inside = [] ∧ c = .script ∧ t.role? = some .headerEnd := by
  fun_induction segments ts generalizing before with
  | case1 => simp at h
  | case2 t rest ih =>
    cases before with
    | nil =>
      obtain ⟨hfront, hafter⟩ := List.cons.inj h
      rcases front_unterminated hfront hc with hnil | hheader
      · rw [hnil, segments] at hafter
        exact Or.inl hafter.symm
      · exact Or.inr ⟨t, hheader⟩
    | cons segment more => exact ih (List.cons.inj h).2

end Segment

theorem Token.kind_of_role? {t : Token} {role : Role} (hclass : t.kind.statementClass = .script)
    (hrole : t.role? = some role) : t.kind = .keyword .script role := by
  unfold role? at hrole
  split at hrole
  · next tier named hkind =>
    obtain rfl := Option.some.inj hrole
    rw [hkind] at hclass ⊢
    cases tier with
    | script => rfl
    | control => exact StatementClass.noConfusion hclass
    | logical => exact StatementClass.noConfusion hclass
  · exact absurd hrole.symm (Option.some_ne_none role)

theorem isListed_of_frontPiece {v : Vocabulary} {c : Char} {rest written : List Char} {kind : TokenKind}
    (h : (frontPiece v c rest).1 = .token kind written) : kind.isListed = false := by
  by_cases hwords : isWordStart c = true ∧ startsRemark (c :: rest) = false
  · rw [frontPiece_word v hwords.1 hwords.2] at h
    exact Piece.noConfusion h
  · have hplain := isPlain_frontPiece_empty c rest
    rw [frontPiece_eq_of_not_words .empty v hwords, h] at hplain
    exact hplain

theorem kind_wordMatch (table : KeywordTable) (text : List Char) :
    ((Vocabulary.ofTable table).wordMatch text).kind = .identifier ∨
      ∃ k ∈ table.keywords, ((Vocabulary.ofTable table).wordMatch text).kind = k.tokenKind := by
  rcases (Vocabulary.ofTable table).wordMatch_cases text with h | ⟨taken, entry, -, hfind, h⟩
  · exact Or.inl (by rw [h])
  · unfold Vocabulary.find? at hfind
    split at hfind
    · exact absurd hfind.symm (Option.some_ne_none entry)
    · obtain ⟨k, hk, rfl⟩ := List.mem_map.1 (List.mem_of_find?_eq_some hfind)
      exact Or.inr ⟨k, hk, by rw [h]⟩

theorem Keyword.eq_of_tokenKind_eq {k : Keyword} {tier : Tier} {role : Role}
    (h : k.tokenKind = .keyword tier role) : k.tier = tier ∧ k.role = role := by
  unfold tokenKind at h
  split at h
  · exact TokenKind.noConfusion h
  · exact TokenKind.keyword.inj h

theorem Scan.kind_of_mem_ofPieces {ps : List Piece} {offset : Nat} {leading : List Trivia} {t : Token}
    (ht : t ∈ (ofPieces offset leading ps).tokens) :
    (∃ written, .token t.kind written ∈ ps) ∨ ∃ m, .words m ∈ ps ∧ t.kind = m.kind := by
  obtain ⟨start, taken, ⟨kind, text, hp, rfl⟩ | ⟨m, hm, rfl⟩⟩ := exists_of_mem_ofPieces ht
  · exact Or.inl ⟨text, hp⟩
  · exact Or.inr ⟨m, hm, rfl⟩

theorem exists_mem_keywords {table : KeywordTable} {source : List Char} {t : Token}
    (ht : t ∈ (scan (.ofTable table) source).tokens) {tier : Tier} {role : Role}
    (hkind : t.kind = .keyword tier role) : ∃ k ∈ table.keywords, k.tier = tier ∧ k.role = role := by
  rcases Scan.kind_of_mem_ofPieces ht with ⟨written, hpiece⟩ | ⟨m, hm, hmatch⟩
  · have hlisted := forall_mem_pieces
      (P := fun p => ∀ kind written, p = .token kind written → kind.isListed = false)
      (fun _ _ _ _ => isListed_of_frontPiece) source _ hpiece _ written rfl
    rw [hkind] at hlisted
    exact Bool.noConfusion hlisted
  · obtain ⟨text, -, rfl⟩ := exists_of_words_mem_pieces hm
    rcases kind_wordMatch table text with hname | ⟨k, hk, hlisted⟩
    · rw [hmatch, hname] at hkind
      exact TokenKind.noConfusion hkind
    · rw [hmatch, hlisted] at hkind
      exact ⟨k, hk, Keyword.eq_of_tokenKind_eq hkind⟩

/-- A statement that is no control statement ends at a semicolon or at the end of the script, unless it is nothing
but a script keyword that ends headers, and then the table lists such a keyword. -/
theorem unterminated_statement_cases {table : KeywordTable} {limit : Nat} {source : List Char}
    {before after : List Item} {s : Statement}
    (h : (readScript (.ofTable table) limit source).document.items = before ++ .statement s :: after)
    (hclass : s.statementClass ≠ .control) (hterminator : s.terminator = none) :
    after = [] ∨ ∃ t, s = ⟨some t, [], none⟩ ∧ t.kind = .keyword .script .headerEnd ∧
      ∃ k ∈ table.keywords, k.tier = .script ∧ k.role = .headerEnd := by
  obtain ⟨keyword, children, terminator⟩ := s
  obtain rfl : terminator = none := hterminator
  let tokens := (scan (.ofTable table) source).tokens
  have hsegments : segments tokens = before.map Item.segment ++
      .statement (Statement.mk keyword children none).statementClass keyword
        (Node.listTokens children) none :: after.map Item.segment := by
    have hitems : (assemble limit tokens).items.map Item.segment = segments tokens :=
      Progress.segments_run (effectiveDepth limit) .between tokens
    have hread : (assemble limit tokens).items = before ++ .statement ⟨keyword, children, none⟩ :: after := h
    rw [← hitems, hread, List.map_append, List.map_cons]
    rfl
  rcases Segment.unterminated_of_segments_eq hsegments hclass with hnil | ⟨t, rfl, hbody, hscript, hrole⟩
  · exact Or.inl (List.map_eq_nil_iff.1 hnil)
  · obtain rfl := Node.eq_nil_of_listTokens_eq_nil hbody
    have hkind : t.kind = .keyword .script .headerEnd := Token.kind_of_role? hscript hrole
    have hmem : t ∈ tokens := by
      rw [← flatMap_tokens_segments tokens, hsegments]
      simp [Segment.tokens]
    exact Or.inr ⟨t, rfl, hkind, exists_mem_keywords hmem hkind⟩

/-- A table whose one keyword ends headers but is no control keyword. -/
def thenTable : KeywordTable :=
  ⟨"1", [⟨"then", .script, .headerEnd, false⟩]⟩

/-- The class of a statement and whether a semicolon ends it. -/
def Item.ending? : Item → Option (StatementClass × Bool)
  | .statement s => some (s.statementClass, s.terminator.isSome)
  | .label _ _ => none

private theorem exists_items_then :
    ∃ s after, (readScript (.ofTable thenTable) 8 "then x;".toList).document.items =
        [] ++ Item.statement s :: after ∧
      s.statementClass = .script ∧ s.terminator = none ∧ after ≠ [] := by
  have hendings : (readScript (.ofTable thenTable) 8 "then x;".toList).document.items.map Item.ending? =
      [some (.script, false), some (.expression, true)] := by
    decide +kernel
  obtain ⟨item, after, hitems, hitem, hafter⟩ := List.map_eq_cons_iff.1 hendings
  have hne : after ≠ [] := by
    rintro rfl
    exact List.cons_ne_nil _ _ hafter.symm
  cases item with
  | label name colon => exact absurd hitem.symm (Option.some_ne_none _)
  | statement s =>
    obtain ⟨hclass, hterminator⟩ := Prod.mk.inj (Option.some.inj hitem)
    exact ⟨s, after, hitems, hclass, by simpa using hterminator, hne⟩

theorem then_statement_is_bare :
    ∃ s after, (readScript (.ofTable thenTable) 8 "then x;".toList).document.items =
        [] ++ .statement s :: after ∧
      s.statementClass ≠ .control ∧ s.terminator = none ∧
      (after = [] ∨ ∃ t, s = ⟨some t, [], none⟩ ∧ t.kind = .keyword .script .headerEnd ∧
        ∃ k ∈ thenTable.keywords, k.tier = .script ∧ k.role = .headerEnd) := by
  obtain ⟨s, after, hitems, hclass, hterminator, -⟩ := exists_items_then
  have hcontrol : s.statementClass ≠ .control := by
    rw [hclass]
    decide
  exact ⟨s, after, hitems, hcontrol, hterminator,
    unterminated_statement_cases hitems hcontrol hterminator⟩

/-- An accepted table lets a script statement end without a semicolon in front of other items. -/
theorem script_statement_ends_early :
    Vocabulary.accept thenTable = .ok (.ofTable thenTable) ∧
      ∃ s after, (readScript (.ofTable thenTable) 8 "then x;".toList).document.items =
          [] ++ .statement s :: after ∧
        s.statementClass = .script ∧ s.terminator = none ∧ after ≠ [] := by
  have hfault : thenTable.fault? = none := by decide +kernel
  refine ⟨?_, exists_items_then⟩
  rw [Vocabulary.accept, hfault]

end LoadScript
