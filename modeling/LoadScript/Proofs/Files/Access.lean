import LoadScript.Files.Store

set_option autoImplicit false
set_option relaxedAutoImplicit false

namespace LoadScript

namespace FileAccess

variable {σ : Type}

def isThere (files : FileAccess (StateM σ)) (state : σ) (path : String) : Bool :=
  (files.present path state).1

def contentAt (files : FileAccess (StateM σ)) (state : σ) (path : SystemText) : Except FileFault String :=
  (files.read path state).1

def textAt (files : FileAccess (StateM σ)) (state : σ) (path : String) : Except FileFault String :=
  files.contentAt state path

/-- Holds of a state of the files that no question about them changes. -/
structure Rests (files : FileAccess (StateM σ)) (state : σ) : Prop where
  present_eq : ∀ path, files.present path state = (files.isThere state path, state)
  read_eq : ∀ path, files.read path state = (files.contentAt state path, state)

theorem Rests.read_text {files : FileAccess (StateM σ)} {state : σ} (h : files.Rests state) (path : String) :
    files.read path state = (files.textAt state path, state) :=
  h.read_eq path

/-- Holds of files that give back what has been saved: if the path is there afterwards, the text is read at it. -/
structure Keeps (files : FileAccess (StateM σ)) : Prop where
  rests : ∀ state, files.Rests state
  textAt_of_save : ∀ {path text : String} {before after : σ}, files.save path text before = (.ok (), after) →
    files.isThere after path = true → files.textAt after path = .ok text

end FileAccess

namespace FileStore

variable {store saved : FileStore} {place spot : Place} {path : String}

theorem entry?_put_self (entry : StoreEntry) (h : spot.isGiven = false) :
    entry? (store.put spot entry) spot = some entry := by
  simp [put, entry?, h]

theorem entry?_put_of_ne (entry : StoreEntry) (h : place ≠ spot) :
    entry? (store.put spot entry) place = store.entry? place := by
  have hspot : (place == spot) = false := beq_eq_false_iff_ne.2 h
  simp [put, entry?, List.lookup_cons, hspot]

theorem isGiven_eq_false (h : store.entry? place ≠ some .folder) : place.isGiven = false := by
  cases hgiven : place.isGiven with
  | false => rfl
  | true => exact absurd (if_pos hgiven) h

theorem walk_put (entry : StoreEntry) (hspot : store.entry? spot ≠ some .folder) {names : List String} {last : Place}
    (h : store.walk place names = .ok last) : (store.put spot entry).walk place names = .ok last := by
  induction names generalizing place with
  | nil => exact h
  | cons name rest ih =>
    rw [walk] at h ⊢
    cases hentry : store.entry? place with
    | none => simp [hentry] at h
    | some standing =>
      cases standing with
      | file text => simp [hentry] at h
      | folder =>
        have hne : place ≠ spot := by
          rintro rfl
          exact hspot hentry
        rw [hentry] at h
        rw [entry?_put_of_ne entry hne, hentry]
        exact ih h

/-- A file that can be written stands where its path leads, and no folder stood there. -/
theorem exists_of_write {content : Option String} (h : store.write path content = .ok saved) :
    path ≠ "" ∧ ∃ place, store.walk (.startOf path) (pathNames path) = .ok place ∧
      store.entry? place ≠ some .folder ∧ saved = store.put place (.file content) := by
  rw [write] at h
  split at h
  · cases h
  · next hpath =>
    refine ⟨hpath, ?_⟩
    dsimp only at h
    split at h
    · cases h
    · next place hwalk =>
      split at h
      · cases h
      · next hopen =>
        rw [if_neg hopen] at hwalk
        split at h
        · cases h
        · next hfree => exact ⟨place, hwalk, hfree, (Except.ok.inj h).symm⟩

theorem read_of_write {text : String} (h : store.write path (some text) = .ok saved) : saved.read path = .ok text := by
  obtain ⟨hpath, place, hwalk, hfree, rfl⟩ := exists_of_write h
  have hlocate : (store.put place (.file (some text))).locate path = .ok place := by
    rw [locate, if_neg hpath]
    exact walk_put _ hfree hwalk
  simp only [read, lookUp, hlocate, entry?_put_self _ (isGiven_eq_false hfree)]

theorem read_of_save {text : String} (h : store.save path (some text) = (.ok (), saved)) :
    saved.read path = .ok text := by
  rw [save] at h
  split at h
  · cases h
  · split at h
    · cases h
    · next written hwrite =>
      obtain rfl := (Prod.mk.inj h).2
      exact read_of_write hwrite

theorem keeps_access : access.Keeps where
  rests _ := by
    refine ⟨fun _ => rfl, fun path => ?_⟩
    cases path <;> rfl
  textAt_of_save h _ := read_of_save h

end FileStore

end LoadScript
