import LoadScript.Json.Schema
import LoadScript.Proofs.Json.Literals
import LoadScript.Proofs.Text.Lines

/-!
Indented texts read back. A reader reads a value from a JSON value if it finds it in the indented text of this, at every
level and with white space in front. Strings, truth values and choices are read from their literals; an array is read as
soon as each of its items is, and an object as soon as its members fill a record one after another.
-/

set_option autoImplicit false
set_option relaxedAutoImplicit false

namespace LoadScript.Json

open Text

variable {α σ : Type}

theorem isBlank_of_mem_lineBreak {level : Nat} : ∀ c ∈ lineBreak level, isBlank c = true := by
  intro c hc
  rcases List.mem_cons.1 hc with rfl | hc
  · rfl
  · rw [List.eq_of_mem_replicate hc]; rfl

theorem skipBlanks_append {blanks : List Char} (h : ∀ c ∈ blanks, isBlank c = true) (text : List Char) :
    skipBlanks (blanks ++ text) = skipBlanks text :=
  List.dropWhile_append_of_pos h

@[simp]
theorem skipBlanks_lineBreak (level : Nat) (text : List Char) :
    skipBlanks (lineBreak level ++ text) = skipBlanks text :=
  skipBlanks_append isBlank_of_mem_lineBreak text

theorem skipBlanks_cons_of_neg {c : Char} (h : isBlank c = false) (text : List Char) :
    skipBlanks (c :: text) = c :: text :=
  List.dropWhile_cons_of_neg (ne_true_of_eq_false h)

theorem Value.exists_cons_indented (level : Nat) (json : Value) :
    ∃ c text, json.indented level = c :: text ∧ isBlank c = false ∧ c ≠ ']' := by
  cases json with
  | null => exact ⟨_, _, rfl, by decide⟩
  | bool value => cases value <;> exact ⟨_, _, rfl, by decide⟩
  | number n =>
    have hdigits : ∀ d < 10, isBlank (Nat.digitChar d) = false ∧ Nat.digitChar d ≠ ']' := by decide
    obtain ⟨c, text, htext⟩ := List.exists_cons_of_ne_nil (Nat.toDigits_ne_nil : Nat.toDigits 10 n ≠ [])
    obtain ⟨d, hd, rfl⟩ := exists_lt_of_mem_toDigits (by decide) (htext ▸ List.mem_cons_self : c ∈ Nat.toDigits 10 n)
    exact ⟨_, text, htext, hdigits d hd⟩
  | string text => exact ⟨_, _, rfl, by decide⟩
  | array items => cases items <;> exact ⟨_, _, rfl, by decide⟩
  | object members => cases members <;> exact ⟨_, _, rfl, by decide⟩

theorem skipBlanks_indented (level : Nat) (json : Value) (rest : List Char) :
    skipBlanks (json.indented level ++ rest) = json.indented level ++ rest := by
  obtain ⟨c, text, htext, hblank, -⟩ := json.exists_cons_indented level
  rw [htext, List.cons_append, skipBlanks_cons_of_neg hblank]

/-- Holds of what may stand behind a value: nothing, white space or a comma. -/
def EndsValue (rest : List Char) : Prop :=
  ∀ c ∈ rest.head?, isBlank c = true ∨ c = ','

theorem endsValue_lineBreak (level : Nat) (text : List Char) : EndsValue (lineBreak level ++ text) := by
  intro c hc
  obtain rfl : '\n' = c := Option.some.inj hc
  exact .inl rfl

theorem endsValue_comma (text : List Char) : EndsValue (',' :: text) := by
  intro c hc
  exact .inr (Option.some.inj hc).symm

/-- Holds if a reader finds a value in the indented text of a JSON value, and stops behind that text. What stands there
must end the value, as a number goes on with any digit behind it. -/
def Reads (reader : Reader α) (value : α) (json : Value) : Prop :=
  ∀ level text rest, EndsValue rest → skipBlanks text = json.indented level ++ rest → reader text = .ok (value, rest)

theorem reads_string (text : String) : Reads string text (.string text) := by
  intro level front rest _ hfront
  rw [Value.indented, literal_append] at hfront
  simp only [string, hfront, stringBody_flatMap_escaped, Except.map, String.ofList_toList]

theorem reads_bool (value : Bool) : Reads bool value (.bool value) := by
  intro level front rest _ hfront
  cases value <;> (simp only [bool, hfront]; rfl)

theorem reads_choice {choices : List (String × α)} {name : String} {value : α}
    (h : choices.lookup name = some value) : Reads (choice choices) value (.string name) := by
  intro level front rest hrest hfront
  have hstring : string (literal name ++ rest) = .ok (name, rest) :=
    reads_string name level _ rest hrest (skipBlanks_indented level (.string name) rest)
  rw [Value.indented] at hfront
  rw [literal_append] at hfront hstring
  simp only [choice, hfront, choiceName, hstring, bind, Except.bind, h]

def separator (first : Bool) : List Char :=
  if first then [] else [',']

theorem nextElement_separator (first : Bool) {c : Char} {text rest : List Char} (hfront : skipBlanks text = c :: rest)
    (hclosing : c ≠ ']') : nextElement first (separator first ++ text) = .ok (some (c :: rest)) := by
  have hcomma : skipBlanks (',' :: text) = ',' :: text := skipBlanks_cons_of_neg rfl text
  cases first with
  | true => simp [separator, nextElement, hfront]
  | false => simp [separator, nextElement, hcomma, hfront, hclosing]

theorem nextElement_indented (first : Bool) (level : Nat) (json : Value) (rest : List Char) :
    nextElement first (separator first ++ (lineBreak level ++ (json.indented level ++ rest))) =
      .ok (some (json.indented level ++ rest)) := by
  obtain ⟨c, text, htext, hblank, hclosing⟩ := json.exists_cons_indented level
  have hfront : skipBlanks (lineBreak level ++ (json.indented level ++ rest)) = c :: (text ++ rest) := by
    rw [skipBlanks_lineBreak, htext, List.cons_append, skipBlanks_cons_of_neg hblank]
  rw [nextElement_separator first hfront hclosing, htext, List.cons_append]

theorem elements_closing (reader : Reader α) (fuel : Nat) (first : Bool) {text rest : List Char}
    (h : skipBlanks text = ']' :: rest) : elements reader (fuel + 1) first text = .ok ([], rest) := by
  have hnext : nextElement first text = .ok none := by simp [nextElement, h]
  have hend : endArray text = .ok rest := by simp [endArray, h]
  simp [elements, hnext, hend, bind, Except.bind, Except.map]

theorem elements_cons {reader : Reader α} {value : α} {json : Value} (hread : Reads reader value json) (fuel : Nat)
    (first : Bool) (level : Nat) {after rest : List Char} {values : List α} (hends : EndsValue after)
    (hrest : elements reader fuel false after = .ok (values, rest)) :
    elements reader (fuel + 1) first (separator first ++ (lineBreak level ++ (json.indented level ++ after))) =
      .ok (value :: values, rest) := by
  have hvalue := hread level _ after hends (skipBlanks_indented level json after)
  simp [elements, nextElement_indented, hvalue, hrest, bind, Except.bind]

theorem elements_indentedItems {reader : Reader α} {toJson : α → Value} {value : α} {values : List α}
    (h : ∀ x ∈ value :: values, Reads reader x (toJson x)) {fuel : Nat} (hfuel : values.length + 1 < fuel)
    (first : Bool) (inner outer : Nat) (rest : List Char) :
    elements reader fuel first (separator first ++
      (Value.indentedItems inner ((value :: values).map toJson) ++ (lineBreak outer ++ ']' :: rest))) =
        .ok (value :: values, rest) := by
  have hclosing : ∀ n, elements reader (n + 1) false (lineBreak outer ++ ']' :: rest) = .ok ([], rest) := fun n =>
    elements_closing reader n false (by rw [skipBlanks_lineBreak]; rfl)
  -- the items behind the first one are read as the later items of an array, so `first` must not stay fixed
  induction values generalizing value fuel first with
  | nil =>
    obtain ⟨n, rfl⟩ : ∃ n, fuel = n + 1 + 1 := ⟨fuel - 2, by simp at hfuel; omega⟩
    rw [List.map_cons, List.map_nil, Value.indentedItems, List.append_assoc]
    exact elements_cons (h value List.mem_cons_self) _ first inner (endsValue_lineBreak _ _) (hclosing n)
  | cons next values ih =>
    obtain ⟨n, rfl⟩ : ∃ n, fuel = n + 1 := ⟨fuel - 1, by omega⟩
    obtain ⟨hvalue, hvalues⟩ := List.forall_mem_cons.1 h
    have hrest := ih hvalues (by simpa using hfuel) false
    rw [List.map_cons, List.map_cons, Value.indentedItems, List.append_assoc, List.append_assoc]
    exact elements_cons hvalue _ first inner (endsValue_comma _) hrest

theorem length_le_length_indentedItems (level : Nat) (items : List Value) :
    items.length ≤ (Value.indentedItems level items).length := by
  induction items with
  | nil => exact Nat.zero_le _
  | cons item rest ih =>
    cases rest with
    | nil => simp [Value.indentedItems, lineBreak]
    | cons next rest =>
      simp only [Value.indentedItems, List.length_append, List.length_cons] at ih ⊢
      omega

theorem reads_array {reader : Reader α} {toJson : α → Value} {values : List α}
    (h : ∀ x ∈ values, Reads reader x (toJson x)) : Reads (array reader) values (.array (values.map toJson)) := by
  intro level text rest _ htext
  cases values with
  | nil =>
    rw [List.map_nil, Value.indented] at htext
    simp only [array, htext]
    exact elements_closing reader _ true rfl
  | cons value values =>
    rw [List.map_cons, Value.indented, ← List.map_cons] at htext
    have hlength := length_le_length_indentedItems (level + 1) ((value :: values).map toJson)
    simp only [List.cons_append, List.append_assoc] at htext
    simp only [array, htext]
    -- the fuel is the length of the text, which has a line break for each item
    refine elements_indentedItems h ?_ true (level + 1) level rest
    simp only [List.length_map, List.length_cons, List.length_append] at hlength ⊢
    omega

theorem nextName_literal (first : Bool) (level : Nat) (name : String) (rest : List Char) :
    nextName first (separator first ++ (lineBreak level ++ (literal name ++ rest))) = .ok (some name, rest) := by
  have hfront : skipBlanks (lineBreak level ++ (literal name ++ rest)) =
      '"' :: (name.toList.flatMap escaped ++ '"' :: rest) := by
    rw [skipBlanks_lineBreak, literal_append, skipBlanks_cons_of_neg rfl]
  have hcomma : ∀ text : List Char, skipBlanks (',' :: text) = ',' :: text := skipBlanks_cons_of_neg rfl
  cases first with
  | true => simp [separator, nextName, hfront, stringBody_flatMap_escaped, Except.map]
  | false => simp [separator, nextName, hcomma, hfront, stringBody_flatMap_escaped, Except.map]

theorem members_closing (fields : List (FieldReader σ)) (fuel : Nat) (first : Bool) (r : σ) {text rest : List Char}
    (h : skipBlanks text = '\x7d' :: rest) : members fields (fuel + 1) first r text = .ok (r, rest) := by
  have hnext : nextName first text = .ok (none, rest) := by simp [nextName, h]
  simp [members, hnext, bind, Except.bind]

theorem members_cons {fields : List (FieldReader σ)} {field : FieldReader σ} {name : String} {r next last : σ}
    {json : Value} (hfield : fields.find? (fun field => field.name == name) = some field) (hnew : field.isSet r = false)
    (hread : Reads (field.read r) next json) (fuel : Nat) (first : Bool) (level : Nat) {after rest : List Char}
    (hends : EndsValue after) (hrest : members fields fuel false next after = .ok (last, rest)) :
    members fields (fuel + 1) first r
      (separator first ++ (lineBreak level ++ (literal name ++ ':' :: ' ' :: (json.indented level ++ after)))) =
        .ok (last, rest) := by
  have hcolon : ∀ text, expectColon (':' :: text) = .ok text := fun _ => rfl
  have hspace : skipBlanks (' ' :: (json.indented level ++ after)) = json.indented level ++ after :=
    skipBlanks_indented level json after
  have hvalue := hread level _ after hends hspace
  simp [members, nextName_literal, hfield, hnew, hcolon, hvalue, hrest, bind, Except.bind]

/-- Holds if the members of an object, read one after another by the fields of their names, turn a record into another
one. -/
inductive Fills (fields : List (FieldReader σ)) : σ → List (String × Value) → σ → Prop
  | nil (r : σ) : Fills fields r [] r
  | cons {field : FieldReader σ} {name : String} {r next last : σ} {json : Value} {rest : List (String × Value)}
      (hfield : fields.find? (fun field => field.name == name) = some field) (hnew : field.isSet r = false)
      (hread : Reads (field.read r) next json) (hrest : Fills fields next rest last) :
      Fills fields r ((name, json) :: rest) last

theorem members_indentedMembers {fields : List (FieldReader σ)} {r last : σ} {member : String × Value}
    {ms : List (String × Value)} (h : Fills fields r (member :: ms) last) {fuel : Nat} (hfuel : ms.length + 1 < fuel)
    (first : Bool) (inner outer : Nat) (rest : List Char) :
    members fields fuel first r (separator first ++
      (Value.indentedMembers inner (member :: ms) ++ (lineBreak outer ++ '\x7d' :: rest))) = .ok (last, rest) := by
  induction ms generalizing member r fuel first with
  | nil =>
    obtain ⟨n, rfl⟩ : ∃ n, fuel = n + 1 + 1 := ⟨fuel - 2, by simp at hfuel; omega⟩
    cases h with
    | cons hfield hnew hread hrest =>
      cases hrest
      have hclosing : members fields (n + 1) false last (lineBreak outer ++ '\x7d' :: rest) = .ok (last, rest) :=
        members_closing fields n false last (by rw [skipBlanks_lineBreak]; rfl)
      have hmember := members_cons hfield hnew hread (n + 1) first inner (endsValue_lineBreak _ _) hclosing
      simpa [Value.indentedMembers] using hmember
  | cons other ms ih =>
    obtain ⟨n, rfl⟩ : ∃ n, fuel = n + 1 := ⟨fuel - 1, by omega⟩
    cases h with
    | cons hfield hnew hread hrest =>
      have hlater := ih hrest (by simpa using hfuel) false
      have hmember := members_cons hfield hnew hread n first inner (endsValue_comma _) hlater
      simpa [Value.indentedMembers] using hmember

theorem length_le_length_indentedMembers (level : Nat) (ms : List (String × Value)) :
    ms.length ≤ (Value.indentedMembers level ms).length := by
  induction ms with
  | nil => exact Nat.zero_le _
  | cons member rest ih =>
    cases rest with
    | nil => simp [Value.indentedMembers, lineBreak]
    | cons next rest =>
      simp only [Value.indentedMembers, List.length_append, List.length_cons] at ih ⊢
      omega

theorem reads_record {fields : List (FieldReader σ)} {start last : σ} {finish : σ → Option α} {value : α}
    {ms : List (String × Value)} (h : Fills fields start ms last) (hfinish : finish last = some value) :
    Reads (record fields start finish) value (.object ms) := by
  intro level text rest _ htext
  have hmembers : ∃ front, skipBlanks text = '\x7b' :: front ∧
      members fields (front.length + 1) true start front = .ok (last, rest) := by
    cases ms with
    | nil =>
      cases h
      exact ⟨'\x7d' :: rest, htext, members_closing fields _ true _ rfl⟩
    | cons member ms =>
      rw [Value.indented] at htext
      have hlength := length_le_length_indentedMembers (level + 1) (member :: ms)
      simp only [List.cons_append, List.append_assoc] at htext
      refine ⟨_, htext, members_indentedMembers h ?_ true (level + 1) level rest⟩
      simp only [List.length_cons, List.length_append] at hlength ⊢
      omega
  obtain ⟨front, hfront, hlast⟩ := hmembers
  simp [record, hfront, hlast, hfinish, bind, Except.bind]

/-- A whole text may have white space behind its value. -/
theorem Reads.document_eq {reader : Reader α} {value : α} {json : Value} (h : Reads reader value json)
    {blanks : List Char} (hblanks : ∀ c ∈ blanks, isBlank c = true) :
    document reader (json.indented 0 ++ blanks) = .ok value := by
  have hends : EndsValue blanks := fun c hc => .inl (hblanks c (List.mem_of_mem_head? hc))
  have hread := h 0 _ blanks hends (skipBlanks_indented 0 json blanks)
  have hend : skipBlanks blanks = [] := by
    rw [← List.append_nil blanks, skipBlanks_append hblanks]
    rfl
  simp [document, hread, hend, bind, Except.bind]

end LoadScript.Json
