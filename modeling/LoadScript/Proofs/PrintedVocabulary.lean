import LoadScript.CommandLine.Run
import LoadScript.Files.Store
import LoadScript.Proofs.Json.RoundTrip
import LoadScript.Proofs.Vocabulary.Lookup

set_option autoImplicit false
set_option relaxedAutoImplicit false

namespace LoadScript

open Json CommandLine

theorem Json.Fills.optionField {σ α : Type} {fields : List (FieldReader σ)} {name : String} {get : σ → Option α}
    {set : σ → α → σ} {reader : Reader α} {r last : σ} {value : α} {json : Value} {rest : List (String × Value)}
    (hfield : fields.find? (fun field => field.name == name) = some (optionField name get set reader))
    (hfree : get r = none) (hread : Reads reader value json) (hrest : Fills fields (set r value) rest last) :
    Fills fields r ((name, json) :: rest) last := by
  refine .cons hfield (Option.isSome_eq_false_iff.2 (Option.isNone_iff_eq_none.2 hfree)) ?_ hrest
  intro level text after hends htext
  simp only [LoadScript.optionField, hread level text after hends htext, Except.map]

theorem Tier.lookup_word (tier : Tier) : tierChoices.lookup tier.word = some tier := by
  cases tier <;> rfl

theorem Role.lookup_word (role : Role) : roleChoices.lookup role.word = some role := by
  cases role <;> rfl

theorem Keyword.reads_toJson (k : Keyword) : Reads reader k k.toJson := by
  have hfills : Fills fields ⟨none, none, none, none⟩
      [("spelling", .string k.spelling), ("tier", .string k.tier.word), ("role", .string k.role.word),
        ("callable", .bool k.callable)]
      ⟨some k.spelling, some k.tier, some k.role, some k.callable⟩ :=
    .optionField rfl rfl (reads_string k.spelling) (.optionField rfl rfl (reads_choice k.tier.lookup_word)
      (.optionField rfl rfl (reads_choice k.role.lookup_word) (.optionField rfl rfl (reads_bool k.callable) (.nil _))))
  exact reads_record hfills rfl

theorem KeywordTable.reads_toJson (table : KeywordTable) : Reads reader table table.toJson := by
  have hkeywords : Reads (array Keyword.reader) table.keywords (.array (table.keywords.map Keyword.toJson)) :=
    reads_array fun k _ => k.reads_toJson
  have hfills : Fills fields ⟨none, none⟩
      [("version", .string table.version), ("keywords", .array (table.keywords.map Keyword.toJson))]
      ⟨some table.version, some table.keywords⟩ :=
    .optionField rfl rfl (reads_string table.version) (.optionField rfl rfl hkeywords (.nil _))
  exact reads_record hfills rfl

theorem KeywordTable.ofJson_indentedText (table : KeywordTable) {blanks : String}
    (h : ∀ c ∈ blanks.toList, isBlank c = true) : ofJson (table.toJson.indentedText ++ blanks) = .ok table := by
  rw [ofJson, String.toList_append, Value.indentedText, String.toList_ofList]
  exact table.reads_toJson.document_eq h

theorem Vocabulary.ofJson_indentedText {table : KeywordTable} {v : Vocabulary} (haccept : accept table = .ok v)
    {blanks : String} (h : ∀ c ∈ blanks.toList, isBlank c = true) :
    ofJson (table.toJson.indentedText ++ blanks) = .ok v := by
  simp only [ofJson, table.ofJson_indentedText h, haccept]

/-- What the program prints for an accepted table is accepted again, with or without the line break behind it, and gives
the same vocabulary: the same table, and with it the same answers to all questions and the same readings of all
scripts. -/
theorem printed_vocabulary_reloads {table : KeywordTable} {v : Vocabulary} (haccept : Vocabulary.accept table = .ok v)
    {m : Type → Type} [Monad m] (files : FileAccess m) (env : Environment) (settings : Settings SystemText) :
    let text := table.toJson.indentedText
    Command.run files env ⟨settings, v⟩ .vocabulary = pure (.printing text) ∧
      Vocabulary.ofJson text = .ok v ∧ Vocabulary.ofJson (closeLines (Report.printing text).output) = .ok v ∧
      v.table = table := by
  intro text
  have hbare : Vocabulary.ofJson (text ++ "") = .ok v := Vocabulary.ofJson_indentedText haccept nofun
  have hclosed : closeLines (Report.printing text).output = text ++ "\n" := by
    simp [closeLines, Report.printing]
  obtain rfl := (Vocabulary.accept_eq_ok haccept).1
  refine ⟨rfl, by rwa [String.append_empty] at hbare, ?_, rfl⟩
  rw [hclosed]
  exact Vocabulary.ofJson_indentedText haccept (List.all_eq_true.1 rfl)

theorem odd_characters_reload :
    let table : KeywordTable :=
      ⟨"\"1\\2\"\n\x01\x7f😀", [⟨"left\tjoin", .script, .headerEnd, true⟩, ⟨"öffne", .logical, .clause, false⟩]⟩
    let v := Vocabulary.ofTable table
    let text := table.toJson.indentedText
    Vocabulary.accept table = .ok v ∧
      Command.run FileStore.access (fun _ => none) ⟨{}, v⟩ .vocabulary = pure (.printing text) ∧
      Vocabulary.ofJson text = .ok v ∧ Vocabulary.ofJson (closeLines (Report.printing text).output) = .ok v ∧
      v.table = table := by
  intro table v text
  have hfault : table.fault? = none := by decide +kernel
  have haccept : Vocabulary.accept table = .ok v := Vocabulary.accept_of_fault? hfault
  exact ⟨haccept, printed_vocabulary_reloads haccept FileStore.access (fun _ => none) {}⟩

end LoadScript
