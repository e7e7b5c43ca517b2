import LoadScript.Json.Encoding
import LoadScript.Json.Schema

/-!
Keyword tables in JSON. A keyword needs its spelling and its tier; its role is a clause and it is not callable
unless the text says otherwise.
-/

set_option autoImplicit false
set_option relaxedAutoImplicit false

namespace LoadScript

open Json

def tierChoices : List (String × Tier) :=
  [Tier.control, .script, .logical].map fun tier => (tier.word, tier)

def roleChoices : List (String × Role) :=
  [Role.leader, .clause, .headerEnd].map fun role => (role.word, role)

structure KeywordDraft where
  spelling : Option String
  tier : Option Tier
  role : Option Role
  callable : Option Bool

def optionField {σ α : Type} (name : String) (get : σ → Option α) (set : σ → α → σ) (reader : Reader α) :
    FieldReader σ where
  name := name
  isSet record := (get record).isSome
  read record text := (reader text).map fun (value, rest) => (set record value, rest)

namespace Keyword

def fields : List (FieldReader KeywordDraft) :=
  [optionField "spelling" KeywordDraft.spelling (fun k value => { k with spelling := some value }) string,
   optionField "tier" KeywordDraft.tier (fun k value => { k with tier := some value }) (choice tierChoices),
   optionField "role" KeywordDraft.role (fun k value => { k with role := some value }) (choice roleChoices),
   optionField "callable" KeywordDraft.callable (fun k value => { k with callable := some value }) bool]

def ofDraft? (k : KeywordDraft) : Option Keyword :=
  match k.spelling, k.tier with
  | some spelling, some tier => some ⟨spelling, tier, k.role.getD .clause, k.callable.getD false⟩
  | _, _ => none

def reader : Reader Keyword :=
  record fields ⟨none, none, none, none⟩ ofDraft?

end Keyword

structure TableDraft where
  version : Option String
  keywords : Option (List Keyword)

namespace KeywordTable

def fields : List (FieldReader TableDraft) :=
  [optionField "version" TableDraft.version (fun t value => { t with version := some value }) string,
   optionField "keywords" TableDraft.keywords (fun t value => { t with keywords := some value })
    (array Keyword.reader)]

def ofDraft? (t : TableDraft) : Option KeywordTable :=
  match t.version, t.keywords with
  | some version, some keywords => some ⟨version, keywords⟩
  | _, _ => none

def reader : Reader KeywordTable :=
  record fields ⟨none, none⟩ ofDraft?

def ofJson (text : String) : Except Fault KeywordTable :=
  document reader text.toList

end KeywordTable

inductive TableFault where
  | text (fault : Fault)
  | content (fault : VocabularyFault)
  deriving DecidableEq

def Vocabulary.ofJson (text : String) : Except TableFault Vocabulary :=
  match KeywordTable.ofJson text with
  | .error fault => .error (.text fault)
  | .ok table =>
    match accept table with
    | .error fault => .error (.content fault)
    | .ok vocabulary => .ok vocabulary

end LoadScript
