import LoadScript.Proofs.Json.Records
import LoadScript.Proofs.SavedSettings

set_option autoImplicit false
set_option relaxedAutoImplicit false

namespace LoadScript

open Text Json

namespace Settings

/-- What a text says about the settings, without the defaults. -/
def draftOfJson (text : String) : Except Fault SettingsDraft :=
  document (record fields ⟨none, none, none⟩ some) text.toList

theorem maxDepth_lt_of_draftOfJson {text : String} {draft : SettingsDraft} (h : draftOfJson text = .ok draft) :
    ∀ depth ∈ draft.maxDepth, depth < Nat.pow 2 64 := by
  obtain ⟨rest, hread⟩ := of_document h
  have hfields : ∀ field ∈ fields, field.Keeps fun draft => ∀ depth ∈ draft.maxDepth, depth < Nat.pow 2 64 := by
    intro field hfield
    simp only [fields, List.mem_cons, List.not_mem_nil, or_false] at hfield
    rcases hfield with rfl | rfl | rfl
    · exact keeps_optionField fun _ _ _ _ hr _ => hr
    · apply keeps_optionField
      rintro _ _ value _ _ hvalue depth ⟨⟩
      exact lt_of_natural hvalue
    · exact keeps_optionField fun _ _ _ _ hr _ => hr
  exact of_record hfields (by simp) hread

end Settings

/-- What a variable says: the text of its value, or nothing if it is not set or its value is no text. -/
inductive Environment.Says (env : Environment) (name : String) : Option String → Prop
  | nothing : (∀ value, env name ≠ some (.text value)) → Says env name none
  | value {value : String} : env name = some (.text value) → Says env name (some value)

theorem Environment.Says.text?_eq {env : Environment} {name : String} {said : Option String} (h : env.Says name said) :
    env.text? name = said := by
  rcases h with hnothing | hvalue
  · cases hset : env name with
    | none => rw [text?, hset]; rfl
    | some found =>
      cases found with
      | text value => exact absurd hset (hnothing value)
      | bytes bytes notText => rw [text?, hset]; rfl
  · rw [text?, hvalue]; rfl

theorem Environment.Says.unique {env : Environment} {name : String} {a b : Option String} (ha : env.Says name a)
    (hb : env.Says name b) : a = b :=
  ha.text?_eq.symm.trans hb.text?_eq

namespace Settings

variable {σ : Type} {files : FileAccess (StateM σ)} {state : σ} {env : Environment} {path : String}

/-- What the settings file says. One that is not there says nothing. -/
inductive FileSays (files : FileAccess (StateM σ)) (state : σ) (path : String) : SettingsDraft → Prop
  | nothing : files.isThere state path = false → FileSays files state path ⟨none, none, none⟩
  | members {text : String} {draft : SettingsDraft} : files.isThere state path = true →
      files.textAt state path = .ok text → draftOfJson text = .ok draft → FileSays files state path draft

theorem FileSays.unique {a b : SettingsDraft} (ha : FileSays files state path a) (hb : FileSays files state path b) :
    a = b := by
  cases ha with
  | nothing hmissing =>
    cases hb with
    | nothing _ => rfl
    | members hthere _ _ => exact absurd (hmissing.symm.trans hthere) Bool.false_ne_true
  | members hthere htext ha =>
    cases hb with
    | nothing hmissing => exact absurd (hmissing.symm.trans hthere) Bool.false_ne_true
    | members _ htext' hb =>
      obtain rfl := Except.ok.inj (htext.symm.trans htext')
      exact Except.ok.inj (ha.symm.trans hb)

theorem FileSays.maxDepth_lt {draft : SettingsDraft} (h : FileSays files state path draft) :
    ∀ depth ∈ draft.maxDepth, depth < Nat.pow 2 64 := by
  cases h with
  | nothing _ => simp
  | members _ _ hdraft => exact maxDepth_lt_of_draftOfJson hdraft

end Settings

end LoadScript
