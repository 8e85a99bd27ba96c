import SiteReader.Proofs.Credential.Store

/-!
# A store in trouble

Whatever the system refuses while a store is used, a change that fails leaves its file alone, but that reading may have made a
missing one; and what only reads the store changes no file that is there (`failure_keeps_file`).  Reading fails as a store
does, unless the file is opened and holds no text (`readError_cases_troubled`).
-/

namespace SiteReader.CredentialStore

variable {store : CredentialStore} {fs : FileSystem}

/-- What the name of the store leads to. -/
def held (store : CredentialStore) (fs : FileSystem) : Option FileEntry :=
  fs.entry? (fs.locate store.path)

/-! ### Writing -/

theorem locate_write (store : CredentialStore) (records : List Credential) (hindrance : FileSystem.Hindrance)
    (fs : FileSystem) :
    (outcome (store.write records hindrance) fs).2.locate store.path = fs.locate store.path := by
  rw [outcome_write_hindered]
  exact FileSystem.locate_eq_of_home (fs.home_replaceStepwise hindrance store.path _) store.path

theorem writeError {records : List Credential} {hindrance : FileSystem.Hindrance} {failure : Failure}
    (h : (outcome (store.write records hindrance) fs).1 = .error failure) : ∃ cause, failure = .store cause := by
  rw [outcome_write_hindered] at h
  dsimp only at h
  split at h
  next => cases h
  next => exact ⟨_, (Except.error.inj h).symm⟩

/-- A file that is not written stays as it was. -/
theorem held_write_of_failed {records : List Credential} {hindrance : FileSystem.Hindrance} {failure : Failure}
    (h : (outcome (store.write records hindrance) fs).1 = .error failure) :
    store.held (outcome (store.write records hindrance) fs).2 = store.held fs := by
  rw [held, locate_write, held]
  rw [outcome_write_hindered] at h ⊢
  dsimp only at h ⊢
  cases hdone : (fs.replaceStepwise hindrance store.path (Credential.fileText records).toUTF8).1 with
  | false => exact FileSystem.entry?_replaceStepwise_of_failed hdone
  | true =>
    rw [hdone] at h
    cases h

/-- A write that is hindered fails. -/
theorem write_hindered (store : CredentialStore) (records : List Credential) {hindrance : FileSystem.Hindrance}
    (h : hindrance ≠ .none) (fs : FileSystem) :
    (outcome (store.write records hindrance) fs).1 = .error (.store (.unwritable store.path.text)) := by
  have hfailed : (fs.replaceStepwise hindrance store.path (Credential.fileText records).toUTF8).1 = false := by
    rcases fs.replaceStepwise_cases hindrance store.path (Credential.fileText records).toUTF8 with
      ⟨hnone, -⟩ | ⟨_, _, -, -, heq | ⟨_, _, heq⟩⟩
    · exact absurd hnone h
    · rw [heq]
    · rw [heq]
  rw [outcome_write_hindered]
  dsimp only
  rw [hfailed]
  rfl

/-- A file that is written holds the records. -/
theorem held_write_of_done {records : List Credential} {hindrance : FileSystem.Hindrance}
    (h : (outcome (store.write records hindrance) fs).1 = .ok ()) (hne : fs.locate store.path ≠ []) :
    store.held (outcome (store.write records hindrance) fs).2 = some (.file (Credential.fileText records).toUTF8) := by
  rw [held, locate_write]
  rw [outcome_write_hindered] at h ⊢
  dsimp only at h ⊢
  cases hdone : (fs.replaceStepwise hindrance store.path (Credential.fileText records).toUTF8).1 with
  | true => exact FileSystem.entry?_replaceStepwise_of_done hdone hne
  | false =>
    rw [hdone] at h
    cases h

/-- Writing changes no other file. -/
theorem write_keeps_other (records : List Credential) (hindrance : FileSystem.Hindrance) {name : List String}
    {bytes : ByteArray} (hne : name ≠ fs.locate store.path) (h : fs.entry? name = some (.file bytes)) :
    FileSystem.entry? (outcome (store.write records hindrance) fs).2 name = some (.file bytes) := by
  rw [outcome_write_hindered]
  exact FileSystem.entry?_replaceStepwise_of_ne hindrance _ hne h

theorem write_failed_keepsFiles {records : List Credential} {hindrance : FileSystem.Hindrance} {failure : Failure}
    (h : (outcome (store.write records hindrance) fs).1 = .error failure) :
    fs.KeepsFiles (outcome (store.write records hindrance) fs).2 := by
  intro name bytes hname
  by_cases hself : name = fs.locate store.path
  · have hheld := held_write_of_failed h
    rw [held, locate_write, held] at hheld
    rw [hself, hheld, ← hself, hname]
  · exact write_keeps_other records hindrance hself hname

/-! ### Reading -/

/-- Reading the store leaves all files as they were, or makes its own one, which was missing. -/
theorem read_cases_troubled (store : CredentialStore) (trouble : Trouble) (fs : FileSystem) :
    (outcome (store.read trouble) fs).2 = fs ∨
      fs.openFile store.path = .missing ∧
        (outcome (store.read trouble) fs).2 = (outcome (store.write [] trouble.making) fs).2 := by
  rw [outcome_read_troubled]
  cases hopened : if trouble.opening then FileSystem.Opened.refused else fs.openFile store.path with
  | refused => exact .inl rfl
  | content bytes => exact .inl rfl
  | missing =>
    right
    split at hopened
    · cases hopened
    · exact ⟨hopened, rfl⟩

theorem held_read (store : CredentialStore) (trouble : Trouble) (fs : FileSystem) :
    store.held (outcome (store.read trouble) fs).2 = store.held fs ∨
      store.held fs = none ∧ store.held (outcome (store.read trouble) fs).2 = some (.file "[]".toUTF8) := by
  rcases store.read_cases_troubled trouble fs with hsame | ⟨hmissing, hmade⟩
  · exact .inl (congrArg store.held hsame)
  · have hnone : store.held fs = none := FileSystem.entry?_of_openFile_missing hmissing
    have hne : fs.locate store.path ≠ [] := by
      intro hnil
      rw [held, hnil] at hnone
      cases hnone
    rw [hmade]
    cases hwritten : (outcome (store.write [] trouble.making) fs).1 with
    | error failure => exact .inl (held_write_of_failed hwritten)
    | ok => exact .inr ⟨hnone, held_write_of_done hwritten hne⟩

/-- Reading the store changes no file that is there. -/
theorem read_keepsFiles (store : CredentialStore) (trouble : Trouble) (fs : FileSystem) :
    fs.KeepsFiles (outcome (store.read trouble) fs).2 := by
  rcases store.read_cases_troubled trouble fs with hsame | ⟨hmissing, hmade⟩
  · rw [hsame]
    exact .refl fs
  · intro name bytes hname
    have hne : name ≠ fs.locate store.path := by
      rintro rfl
      rw [FileSystem.entry?_of_openFile_missing hmissing] at hname
      cases hname
    rw [hmade]
    exact write_keeps_other [] trouble.making hne hname

theorem find_keepsFiles (store : CredentialStore) (trouble : Trouble) (sourceId : String) (fs : FileSystem) :
    fs.KeepsFiles (outcome (store.find? sourceId trouble) fs).2 := by
  rw [outcome_find]
  exact store.read_keepsFiles trouble fs

theorem cookieFor_keepsFiles (store : CredentialStore) (trouble : Trouble) (sourceId url : String) (fs : FileSystem) :
    fs.KeepsFiles (outcome (store.cookieFor sourceId url trouble) fs).2 := by
  rw [outcome_cookieFor]
  cases Url.originKeys url with
  | error fault => exact .refl fs
  | ok keys => exact store.read_keepsFiles trouble fs

/-! ### Failures of reading -/

/-- The file of a store, if it is there, holds a text. -/
def HoldsText (store : CredentialStore) (fs : FileSystem) : Prop :=
  ∀ bytes, fs.openFile store.path = .content bytes → (String.fromUTF8? bytes).isSome

/-- Reading that fails does so as a store, unless the file is opened and holds no text. -/
theorem readError_cases_troubled {trouble : Trouble} {failure : Failure}
    (h : (outcome (store.read trouble) fs).1 = .error failure) :
    ((trouble.opening = true ∨ store.HoldsText fs) ∧ ∃ cause, failure = .store cause) ∨
      (¬ (trouble.opening = true ∨ store.HoldsText fs) ∧ failure = .fault .undecodable) := by
  rw [outcome_read_troubled] at h
  by_cases hopening : trouble.opening = true
  · rw [if_pos hopening] at h
    cases h
    exact .inl ⟨.inl hopening, _, rfl⟩
  · rw [if_neg hopening] at h
    have htext (hne : ∀ bytes, fs.openFile store.path ≠ .content bytes) : store.HoldsText fs :=
      fun bytes ho => absurd ho (hne bytes)
    cases ho : fs.openFile store.path with
    | missing =>
      rw [ho] at h
      obtain ⟨cause, rfl⟩ := writeError (eq_error_of_map h)
      exact .inl ⟨.inr (htext (by simp [ho])), cause, rfl⟩
    | refused =>
      rw [ho] at h
      cases h
      exact .inl ⟨.inr (htext (by simp [ho])), _, rfl⟩
    | content bytes =>
      have hholds : store.HoldsText fs ↔ (String.fromUTF8? bytes).isSome := by
        simp [HoldsText, ho]
      cases hd : String.fromUTF8? bytes with
      | none =>
        simp only [ho, hd] at h
        cases h
        exact .inr ⟨by simp [hopening, hholds, hd], rfl⟩
      | some text =>
        simp only [ho, hd] at h
        cases hr : Credential.ofFileText store.path.text text with
        | ok records =>
          rw [hr] at h
          cases h
        | error cause =>
          rw [hr] at h
          cases h
          exact .inl ⟨.inr (by simp [hholds, hd]), cause, rfl⟩

theorem readError_cases {failure : Failure} (h : (outcome store.read fs).1 = .error failure) :
    (store.HoldsText fs ∧ ∃ cause, failure = .store cause) ∨ (¬ store.HoldsText fs ∧ failure = .fault .undecodable) := by
  simpa using readError_cases_troubled h

/-! ### Changes that fail -/

/-- A change fails where the store is read, or where it is written after that. -/
theorem upsert_failed_cases {record : Credential} {trouble : Trouble} {failure : Failure}
    (h : (outcome (store.upsert record trouble) fs).1 = .error failure) :
    ((outcome (store.read trouble) fs).1 = .error failure ∧
      (outcome (store.upsert record trouble) fs).2 = (outcome (store.read trouble) fs).2) ∨
    ∃ records read, read = (outcome (store.read trouble) fs).2 ∧
      (outcome (store.write records trouble.writing) read).1 = .error failure ∧
      (outcome (store.upsert record trouble) fs).2 = (outcome (store.write records trouble.writing) read).2 := by
  rw [outcome_upsert_troubled] at h ⊢
  cases hread : outcome (store.read trouble) fs with
  | mk result read =>
    rw [hread] at h
    cases result with
    | error failed => exact .inl ⟨congrArg Except.error (Except.error.inj h), rfl⟩
    | ok records => exact .inr ⟨_, read, rfl, h, rfl⟩

/-- A change that fails leaves its file as it was, or without records if reading made it. -/
theorem held_upsert_of_failed {record : Credential} {trouble : Trouble} {failure : Failure}
    (h : (outcome (store.upsert record trouble) fs).1 = .error failure) :
    store.held (outcome (store.upsert record trouble) fs).2 = store.held fs ∨
      store.held fs = none ∧ store.held (outcome (store.upsert record trouble) fs).2 = some (.file "[]".toUTF8) := by
  have hread := store.held_read trouble fs
  rcases upsert_failed_cases h with ⟨-, hstate⟩ | ⟨records, read, rfl, hwrite, hstate⟩
  · rw [hstate]
    exact hread
  · rw [hstate, held_write_of_failed hwrite]
    exact hread

theorem upsert_failed_keepsFiles {record : Credential} {trouble : Trouble} {failure : Failure}
    (h : (outcome (store.upsert record trouble) fs).1 = .error failure) :
    fs.KeepsFiles (outcome (store.upsert record trouble) fs).2 := by
  have hread := store.read_keepsFiles trouble fs
  rcases upsert_failed_cases h with ⟨-, hstate⟩ | ⟨records, read, rfl, hwrite, hstate⟩
  · rw [hstate]
    exact hread
  · rw [hstate]
    exact hread.trans (write_failed_keepsFiles hwrite)

/-- Whatever the system refuses: a change that fails leaves every file as it was, and the file of the store may be one without
records only if it was missing before; and reading the store, looking a record up or looking a cookie up leaves every file
as it was, however it ends. -/
theorem failure_keeps_file (store : CredentialStore) (trouble : Trouble) (fs : FileSystem) :
    (∀ record failure, (outcome (store.upsert record trouble) fs).1 = .error failure →
      fs.KeepsFiles (outcome (store.upsert record trouble) fs).2 ∧
      (store.held (outcome (store.upsert record trouble) fs).2 = store.held fs ∨
        store.held fs = none ∧ store.held (outcome (store.upsert record trouble) fs).2 = some (.file "[]".toUTF8))) ∧
    fs.KeepsFiles (outcome (store.read trouble) fs).2 ∧
    (∀ sourceId, fs.KeepsFiles (outcome (store.find? sourceId trouble) fs).2) ∧
    ∀ sourceId url, fs.KeepsFiles (outcome (store.cookieFor sourceId url trouble) fs).2 :=
  ⟨fun _ _ h => ⟨upsert_failed_keepsFiles h, held_upsert_of_failed h⟩, store.read_keepsFiles trouble fs,
    fun sourceId => store.find_keepsFiles trouble sourceId fs,
    fun sourceId url => store.cookieFor_keepsFiles trouble sourceId url fs⟩

/-- A file that is no text stays so when a change fails to read it, and one without records when there is no space for more
than three bytes and the temporary file cannot be taken away either. -/
theorem failure_keeps_file_concrete :
    let store : CredentialStore := ⟨⟨"", ["auth.json"]⟩⟩
    let binary : FileSystem := ⟨⟨"", []⟩, [(["auth.json"], .file ⟨#[0xFF]⟩)]⟩
    let blank : FileSystem := ⟨⟨"", []⟩, [(["auth.json"], .file "[]".toUTF8)]⟩
    let full : Trouble := { writing := .filling 3 true }
    FileSystem.entry? (outcome (store.upsert ⟨"a", [], []⟩) binary).2 ["auth.json"] = some (.file ⟨#[0xFF]⟩) ∧
    (outcome (store.upsert ⟨"a", [], []⟩ full) blank).1 = .error (.store (.unwritable "auth.json")) ∧
    FileSystem.entry? (outcome (store.upsert ⟨"a", [], []⟩ full) blank).2 ["auth.json"] = some (.file "[]".toUTF8) := by
  intro store binary blank full
  have hbinary : (outcome (store.upsert ⟨"a", [], []⟩) binary).1 = .error (.fault .undecodable) := by
    have hopen : binary.openFile store.path = .content ⟨#[0xFF]⟩ := rfl
    have hundecodable : String.fromUTF8? ⟨#[0xFF]⟩ = none := by decide +kernel
    rw [outcome_upsert, outcome_read, hopen]
    simp only [hundecodable]
  have hfull : (outcome (store.upsert ⟨"a", [], []⟩ full) blank).1 = .error (.store (.unwritable "auth.json")) := by
    have hopen : blank.openFile store.path = .content "[]".toUTF8 := rfl
    have hread : outcome (store.read full) blank = (.ok [], blank) := by
      rw [outcome_read_troubled]
      simp only [full, Bool.false_eq_true, ↓reduceIte, hopen, fromUTF8?_toUTF8]
      rfl
    rw [outcome_upsert_troubled, hread]
    exact store.write_hindered _ (by decide) blank
  exact ⟨((failure_keeps_file store {} binary).1 _ _ hbinary).1 _ _ rfl, hfull,
    ((failure_keeps_file store full blank).1 _ _ hfull).1 _ _ rfl⟩

end SiteReader.CredentialStore
