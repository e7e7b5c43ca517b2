import LoadScript.Proofs.Json.Numbers
import LoadScript.Proofs.PrintedVocabulary
import LoadScript.Proofs.Settings.Loading

set_option autoImplicit false
set_option relaxedAutoImplicit false

namespace LoadScript

open Json

theorem OutputFormat.lookup_word (format : OutputFormat) : formatChoices.lookup format.word = some format := by
  cases format <;> rfl

namespace Settings

def lines (s : Settings) : String :=
  "\x7b\n  \"vocabulary\": " ++ (s.vocabulary.elim "null" fun path => String.ofList (literal path))
    ++ ",\n  \"max_depth\": " ++ toString s.maxDepth ++ ",\n  \"format\": \"" ++ s.format.word ++ "\"\n\x7d"

theorem literal_word (format : OutputFormat) : literal format.word = '"' :: (format.word.toList ++ ['"']) := by
  cases format <;> decide

theorem indented_toJson (s : Settings) :
    s.toJson.indented 0 =
      "\x7b\n  \"vocabulary\": ".toList ++ ((pathValue s.vocabulary).indented 1 ++
        (",\n  \"max_depth\": ".toList ++ (Nat.toDigits 10 s.maxDepth ++
          (",\n  \"format\": \"".toList ++ (s.format.word.toList ++ "\"\n\x7d".toList))))) := by
  have hpath : '\x7b' :: (lineBreak 1 ++ literal "vocabulary" ++ [':', ' ']) = "\x7b\n  \"vocabulary\": ".toList := by
    decide
  have hdepth : ',' :: (lineBreak 1 ++ literal "max_depth" ++ [':', ' ']) = ",\n  \"max_depth\": ".toList := by decide
  have hformat : ',' :: (lineBreak 1 ++ literal "format" ++ [':', ' ', '"']) = ",\n  \"format\": \"".toList := by decide
  have hend : '"' :: (lineBreak 0 ++ ['\x7d']) = "\"\n\x7d".toList := by decide
  rw [← hpath, ← hdepth, ← hformat, ← hend]
  simp only [toJson, members, Value.indented, Value.indentedMembers, literal_word, List.cons_append, List.append_assoc,
    List.nil_append, Nat.zero_add]

theorem text_eq_lines (s : Settings) : s.text = s.lines := by
  have hpath : (pathValue s.vocabulary).indented 1 =
      (s.vocabulary.elim "null" fun path => String.ofList (literal path)).toList := by
    cases s.vocabulary with
    | none => rfl
    | some path => exact String.toList_ofList.symm
  have hdepth : Nat.toDigits 10 s.maxDepth = (toString s.maxDepth).toList := Nat.toList_repr.symm
  have hindented := s.indented_toJson
  rw [hpath, hdepth] at hindented
  simp only [← String.toList_append] at hindented
  change String.ofList (s.toJson.indented 0) = s.lines
  rw [hindented, String.ofList_toList]
  unfold lines
  simp only [String.append_assoc]

/-- The settings with defaults in place of the members of some names. -/
def without (s : Settings) (deleted : List String) : Settings where
  vocabulary := if "vocabulary" ∈ deleted then ({} : Settings).vocabulary else s.vocabulary
  maxDepth := if "max_depth" ∈ deleted then ({} : Settings).maxDepth else s.maxDepth
  format := if "format" ∈ deleted then ({} : Settings).format else s.format

/-- The settings as far as they are read when some names have been met. -/
def draft (s : Settings) (met : List String) : SettingsDraft where
  vocabulary := if "vocabulary" ∈ met then some s.vocabulary else none
  maxDepth := if "max_depth" ∈ met then some s.maxDepth else none
  format := if "format" ∈ met then some s.format else none

theorem reads_pathValue (path : Option String) : Reads (optional string) path (pathValue path) := by
  cases path with
  | none => exact reads_optional_none
  | some path => exact reads_optional_some (reads_string path)

variable {s : Settings}

theorem fills_draft (hdepth : s.maxDepth < Nat.pow 2 64) {ms : List (String × Value)} (hmem : ∀ m ∈ ms, m ∈ s.members)
    {met : List String} (hnodup : (met ++ ms.map Prod.fst).Nodup) :
    Fills fields (s.draft met) ms (s.draft (met ++ ms.map Prod.fst)) := by
  induction ms generalizing met with
  | nil =>
    rw [List.map_nil, List.append_nil]
    exact .nil _
  | cons m ms ih =>
    obtain ⟨hm, hrest⟩ := List.forall_mem_cons.1 hmem
    have hnew : m.1 ∉ met := by
      rw [List.map_cons, List.nodup_append] at hnodup
      intro hmet
      exact hnodup.2.2 _ hmet _ List.mem_cons_self rfl
    have hlater : Fills fields (s.draft (met ++ [m.1])) ms (s.draft (met ++ [m.1] ++ ms.map Prod.fst)) :=
      ih hrest (by simpa using hnodup)
    rw [List.map_cons, List.append_cons]
    simp only [members, List.mem_cons, List.not_mem_nil, or_false] at hm
    -- the name has not been met, so its field is still free
    rcases hm with rfl | rfl | rfl
    · refine .optionField rfl (if_neg hnew) (reads_pathValue s.vocabulary) ?_
      simpa [draft] using hlater
    · refine .optionField rfl (if_neg hnew) (reads_natural hdepth) ?_
      simpa [draft] using hlater
    · refine .optionField rfl (if_neg hnew) (reads_choice s.format.lookup_word) ?_
      simpa [draft] using hlater

def memberNames : List String :=
  ["vocabulary", "max_depth", "format"]

variable {left : List (String × Value)} {deleted : List String}

theorem map_fst_perm (h : left.Perm (s.members.filter fun m => m.1 ∉ deleted)) :
    (left.map Prod.fst).Perm (memberNames.filter (· ∉ deleted)) := by
  have hnames : memberNames.filter (· ∉ deleted) = (s.members.filter fun m => m.1 ∉ deleted).map Prod.fst :=
    List.filter_map (f := Prod.fst) (l := s.members)
  rw [hnames]
  exact h.map Prod.fst

theorem ofDraft_draft (h : left.Perm (s.members.filter fun m => m.1 ∉ deleted)) :
    ofDraft (s.draft (left.map Prod.fst)) = s.without deleted := by
  have hleft : ∀ name ∈ memberNames, (name ∈ left.map Prod.fst ↔ name ∉ deleted) := by
    intro name hname
    rw [(map_fst_perm h).mem_iff, List.mem_filter]
    simp [hname]
  have hvocabulary := hleft "vocabulary" (by decide)
  have hdepth := hleft "max_depth" (by decide)
  have hformat := hleft "format" (by decide)
  simp only [ofDraft, draft, without, hvocabulary, hdepth, hformat, ite_not]
  congr 1 <;> split <;> rfl

theorem ofJson_left (hdepth : s.maxDepth < Nat.pow 2 64) (h : left.Perm (s.members.filter fun m => m.1 ∉ deleted)) :
    ofJson (Value.object left).indentedText = .ok (s.without deleted) := by
  have hmem : ∀ m ∈ left, m ∈ s.members := fun m hm => (List.mem_filter.1 (h.mem_iff.1 hm)).1
  have hnodup : (left.map Prod.fst).Nodup :=
    (map_fst_perm h).nodup_iff.2 (List.Nodup.sublist List.filter_sublist (by decide : memberNames.Nodup))
  have hfills : Fills fields (s.draft []) left (s.draft ([] ++ left.map Prod.fst)) := fills_draft hdepth hmem hnodup
  have hreads : Reads reader (s.without deleted) (.object left) :=
    reads_record hfills (congrArg some (ofDraft_draft h))
  have hdocument : document reader ((Value.object left).indented 0 ++ []) = .ok (s.without deleted) :=
    hreads.document_eq (List.forall_mem_nil _)
  rwa [List.append_nil, ← String.toList_ofList (l := (Value.object left).indented 0)] at hdocument

theorem ofJson_text (hdepth : s.maxDepth < Nat.pow 2 64) : ofJson s.text = .ok s := by
  have hall : s.members.Perm (s.members.filter fun m => m.1 ∉ ([] : List String)) := .of_eq rfl
  exact ofJson_left hdepth hall

end Settings

variable {σ : Type} {files : FileAccess (StateM σ)} {path : String} {before after : σ}

theorem Settings.loadFrom_of_save (hfiles : files.Keeps) {text : String} {s : Settings} (htext : ofJson text = .ok s)
    (hsave : files.save path text before = (.ok (), after)) (hthere : files.isThere after path = true) :
    loadFrom files path after = (.ok s, after) := by
  rw [loadFrom_eq (hfiles.rests after), stored, if_pos hthere, hfiles.textAt_of_save hsave hthere]
  simp only [ofContent, htext]

/-- Settings that have been saved are loaded again, and where members have been deleted from what is kept, those that
are left are loaded, with the defaults in place of the others. -/
theorem saved_settings_reload (hfiles : files.Keeps) {s : Settings} (hdepth : s.maxDepth < Nat.pow 2 64) :
    (Settings.saveTo files path s before = (.ok (), after) → files.isThere after path = true →
      Settings.loadFrom files path after = (.ok s, after)) ∧
    Settings.saveTo files path s = files.save path s.lines ∧ (Value.object s.members).indentedText = s.lines ∧
    ∀ (deleted : List String) (left : List (String × Value)), left.Perm (s.members.filter fun m => m.1 ∉ deleted) →
      files.save path (Value.object left).indentedText before = (.ok (), after) → files.isThere after path = true →
        Settings.loadFrom files path after = (.ok (s.without deleted), after) := by
  refine ⟨fun hsave hthere => ?_, ?_, s.text_eq_lines, fun deleted left hleft hsave hthere => ?_⟩
  · exact Settings.loadFrom_of_save hfiles (Settings.ofJson_text hdepth) hsave hthere
  · rw [Settings.saveTo, s.text_eq_lines]
  · exact Settings.loadFrom_of_save hfiles (Settings.ofJson_left hdepth hleft) hsave hthere

theorem odd_path_reloads :
    let s : Settings := ⟨some "Ä\"\\\n\x01😀.json", 18446744073709551615, .json⟩
    let path := "nested/config.json"
    let after := (Settings.saveTo FileStore.access path s .empty).2
    let left := [("format", Value.string "json"), ("vocabulary", Value.string "Ä\"\\\n\x01😀.json")]
    FileStore.access.Keeps ∧ s.maxDepth < Nat.pow 2 64 ∧
      Settings.saveTo FileStore.access path s .empty = (.ok (), after) ∧
      FileStore.access.isThere after path = true ∧
      Settings.loadFrom FileStore.access path after = (.ok s, after) ∧
      left.Perm (s.members.filter fun m => m.1 ∉ ["max_depth"]) ∧
      ∃ shorter, FileStore.access.save path (Value.object left).indentedText after = (.ok (), shorter) ∧
        FileStore.access.isThere shorter path = true ∧
        Settings.loadFrom FileStore.access path shorter = (.ok { s with maxDepth := 128 }, shorter) := by
  intro s path after left
  have hdepth : s.maxDepth < Nat.pow 2 64 := by decide
  have hok : ∀ {result : Except FileFault Unit × FileStore}, result.1.isOk = true → result = (.ok (), result.2) := by
    rintro ⟨_ | _, _⟩ h
    · cases h
    · rfl
  have hsave : Settings.saveTo FileStore.access path s .empty = (.ok (), after) := hok (by decide +kernel)
  have hthere : FileStore.access.isThere after path = true := by decide +kernel
  have hleft : left.Perm (s.members.filter fun m => m.1 ∉ ["max_depth"]) := .swap _ _ _
  let shorter := (FileStore.access.save path (Value.object left).indentedText after).2
  have hshorter : FileStore.access.save path (Value.object left).indentedText after = (.ok (), shorter) :=
    hok (by decide +kernel)
  have hthere' : FileStore.access.isThere shorter path = true := by decide +kernel
  have hreload := (saved_settings_reload FileStore.keeps_access hdepth).1 hsave hthere
  have hrest := (saved_settings_reload FileStore.keeps_access hdepth).2.2.2 ["max_depth"] left hleft hshorter hthere'
  exact ⟨FileStore.keeps_access, hdepth, hsave, hthere, hreload, hleft, shorter, hshorter, hthere', hrest⟩

end LoadScript
