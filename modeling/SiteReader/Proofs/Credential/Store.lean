import SiteReader.Credential.Store
import SiteReader.Proofs.File.Replacement
import SiteReader.Proofs.Outcome
import SiteReader.Proofs.Text.Basic

/-!
# Reading the store again

Reading the store may create its file, but only to hold what a missing file counts as.  So a store that was read once
reads the same ever after (`outcome_read_again`), and so do its cookies (`outcome_cookieFor_again`).
-/

namespace SiteReader

namespace CredentialStore

theorem outcome_write_hindered (store : CredentialStore) (records : List Credential) (hindrance : FileSystem.Hindrance)
    (fs : FileSystem) : outcome (store.write records hindrance) fs =
      let (done, fs) := fs.replaceStepwise hindrance store.path (Credential.fileText records).toUTF8
      (if done then .ok () else .error (.store (.unwritable store.path.text)), fs) := by
  simp only [write, outcome_bind, outcome_get]
  rcases fs.replaceStepwise hindrance store.path (Credential.fileText records).toUTF8 with ⟨_ | _, fs'⟩ <;> rfl

theorem outcome_write (store : CredentialStore) (records : List Credential) (fs : FileSystem) :
    outcome (store.write records) fs =
      let (done, fs) := fs.replaceFile store.path (Credential.fileText records).toUTF8
      (if done then .ok () else .error (.store (.unwritable store.path.text)), fs) := by
  rw [outcome_write_hindered, FileSystem.replaceStepwise_none]

theorem outcome_read_troubled (store : CredentialStore) (trouble : Trouble) (fs : FileSystem) :
    outcome (store.read trouble) fs = match if trouble.opening then .refused else fs.openFile store.path with
      | .missing => ((outcome (store.write [] trouble.making) fs).1.map fun _ => [],
          (outcome (store.write [] trouble.making) fs).2)
      | .refused => (.error (.store (.unreadable store.path.text)), fs)
      | .content bytes => (match String.fromUTF8? bytes with
        | none => .error (.fault .undecodable)
        | some text => (Credential.ofFileText store.path.text text).mapError .store, fs) := by
  simp only [read, outcome_bind, outcome_get]
  cases if trouble.opening then .refused else fs.openFile store.path with
  | missing =>
    simp only [outcome_bind]
    rcases outcome (store.write [] trouble.making) fs with ⟨_ | _, _⟩ <;> rfl
  | refused => rfl
  | content bytes =>
    cases hu : String.fromUTF8? bytes with
    | none => simp only [hu, outcome_throw]
    | some text =>
      simp only [hu]
      cases Credential.ofFileText store.path.text text <;> rfl

theorem outcome_read (store : CredentialStore) (fs : FileSystem) :
    outcome store.read fs = match fs.openFile store.path with
      | .missing => ((outcome (store.write []) fs).1.map fun _ => [], (outcome (store.write []) fs).2)
      | .refused => (.error (.store (.unreadable store.path.text)), fs)
      | .content bytes => (match String.fromUTF8? bytes with
        | none => .error (.fault .undecodable)
        | some text => (Credential.ofFileText store.path.text text).mapError .store, fs) :=
  store.outcome_read_troubled {} fs

theorem outcome_read_of_content {store : CredentialStore} {fs : FileSystem} {text : String}
    (h : fs.openFile store.path = .content text.toUTF8) :
    outcome store.read fs = ((Credential.ofFileText store.path.text text).mapError .store, fs) := by
  rw [outcome_read, h]
  simp only [fromUTF8?_toUTF8]

theorem openFile_of_write {store : CredentialStore} {records : List Credential} {fs fs' : FileSystem}
    (h : outcome (store.write records) fs = (.ok (), fs')) :
    fs'.openFile store.path = .content (Credential.fileText records).toUTF8 := by
  rw [outcome_write] at h
  cases hr : (fs.replaceFile store.path (Credential.fileText records).toUTF8).1 with
  | false =>
    simp only [hr, Bool.false_eq_true, ↓reduceIte, Prod.mk.injEq] at h
    cases h.1
  | true =>
    simp only [hr, ↓reduceIte, Prod.mk.injEq, true_and] at h
    rw [← h]
    exact FileSystem.openFile_replaceFile hr

/-- A store whose file is missing or can be read can be written. -/
theorem exists_outcome_write {store : CredentialStore} {fs : FileSystem} (h : fs.openFile store.path ≠ .refused)
    (records : List Credential) : ∃ fs', outcome (store.write records) fs = (.ok (), fs') := by
  rw [outcome_write]
  simp only [FileSystem.replaceFile_of_openFile h, ↓reduceIte]
  exact ⟨_, rfl⟩

theorem outcome_upsert_troubled (store : CredentialStore) (record : Credential) (trouble : Trouble) (fs : FileSystem) :
    outcome (store.upsert record trouble) fs = match outcome (store.read trouble) fs with
      | (.ok records, read) => outcome (store.write (Credential.upsert record records) trouble.writing) read
      | (.error failure, read) => (.error failure, read) := by
  rw [upsert, outcome_bind]
  rcases outcome (store.read trouble) fs with ⟨_ | _, _⟩ <;> rfl

theorem outcome_upsert (store : CredentialStore) (record : Credential) (fs : FileSystem) :
    outcome (store.upsert record) fs = match outcome store.read fs with
      | (.ok records, read) => outcome (store.write (Credential.upsert record records)) read
      | (.error failure, read) => (.error failure, read) :=
  store.outcome_upsert_troubled record {} fs

/-- A store that was read once reads the same again. -/
theorem outcome_read_again {store : CredentialStore} {fs fs' : FileSystem} {records : List Credential}
    (h : outcome store.read fs = (.ok records, fs')) : (outcome store.read fs').1 = .ok records := by
  rw [outcome_read] at h
  cases ho : fs.openFile store.path with
  | refused => simp [ho] at h
  | content bytes =>
    simp only [ho, Prod.mk.injEq] at h
    rw [outcome_read, ← h.2, ho]
    exact h.1
  | missing =>
    simp only [ho, outcome_write] at h
    cases hr : (fs.replaceFile store.path (Credential.fileText []).toUTF8).1 with
    | false =>
      simp only [hr, Bool.false_eq_true, ↓reduceIte, Except.map, Prod.mk.injEq] at h
      cases h.1
    | true =>
      -- the file now holds no records, which is what it counted as while it was missing
      simp only [hr, ↓reduceIte, Except.map, Prod.mk.injEq, Except.ok.injEq] at h
      obtain ⟨rfl, rfl⟩ := h
      rw [outcome_read, FileSystem.openFile_replaceFile hr]
      simp only [fromUTF8?_toUTF8]
      rfl

theorem outcome_find {trouble : Trouble} (store : CredentialStore) (sourceId : String) (fs : FileSystem) :
    outcome (store.find? sourceId trouble) fs = ((outcome (store.read trouble) fs).1.map (Credential.find? sourceId),
      (outcome (store.read trouble) fs).2) := by
  rw [find?, outcome_bind]
  rcases outcome (store.read trouble) fs with ⟨_ | _, _⟩ <;> rfl

theorem outcome_cookieFor {trouble : Trouble} (store : CredentialStore) (sourceId url : String) (fs : FileSystem) :
    outcome (store.cookieFor sourceId url trouble) fs = match Url.originKeys url with
      | .error _ => (.ok "", fs)
      | .ok keys => ((outcome (store.read trouble) fs).1.map fun records =>
          ((Credential.find? sourceId records).bind fun record => record.cookie? keys).getD "",
        (outcome (store.read trouble) fs).2) := by
  unfold cookieFor
  cases Url.originKeys url with
  | error fault => rfl
  | ok keys =>
    simp only [outcome_bind, outcome_find]
    rcases outcome (store.read trouble) fs with ⟨_ | records, _⟩
    · rfl
    · simp only [Except.map]
      cases Credential.find? sourceId records <;> rfl

theorem preserves_find {P : FileSystem → Prop} {store : CredentialStore} {trouble : Trouble}
    (h : Preserves P (store.read trouble)) (sourceId : String) : Preserves P (store.find? sourceId trouble) :=
  .bind h fun _ => .pure _

theorem preserves_cookieFor {P : FileSystem → Prop} {store : CredentialStore} {trouble : Trouble}
    (h : Preserves P (store.read trouble)) (sourceId url : String) :
    Preserves P (store.cookieFor sourceId url trouble) := by
  unfold cookieFor
  cases Url.originKeys url with
  | error fault => exact .pure ""
  | ok keys =>
    refine .bind (preserves_find h sourceId) fun record? => ?_
    cases record? <;> exact .pure _

theorem preserves_home_write (store : CredentialStore) (records : List Credential) (home : FilePath) :
    Preserves (fun fs => fs.home = home) (store.write records) := by
  intro fs h
  rw [outcome_write]
  exact (fs.home_replaceFile store.path _).trans h

theorem preserves_home_read (store : CredentialStore) (home : FilePath) :
    Preserves (fun fs => fs.home = home) store.read := by
  intro fs h
  rw [outcome_read]
  cases fs.openFile store.path with
  | missing => exact store.preserves_home_write [] home fs h
  | refused | content => exact h

theorem preserves_home_upsert (store : CredentialStore) (record : Credential) (home : FilePath) :
    Preserves (fun fs => fs.home = home) (store.upsert record) :=
  .bind (store.preserves_home_read home) fun _ => store.preserves_home_write _ home

/-- Looking a cookie up changes no other look-up that comes after it. -/
theorem outcome_cookieFor_again {store : CredentialStore} {sourceId url cookie : String} {fs fs' : FileSystem}
    (h : outcome (store.cookieFor sourceId url) fs = (.ok cookie, fs')) (sourceId' url' : String) :
    (outcome (store.cookieFor sourceId' url') fs').1 = (outcome (store.cookieFor sourceId' url') fs).1 := by
  rw [outcome_cookieFor] at h
  cases hk : Url.originKeys url with
  | error fault =>
    simp only [hk, Prod.mk.injEq] at h
    rw [h.2]
  | ok keys =>
    simp only [hk, Prod.mk.injEq] at h
    cases hr : outcome store.read fs with
    | mk read files =>
      rw [hr] at h
      obtain ⟨hread, rfl⟩ := h
      cases read with
      | error failure => cases hread
      | ok records =>
        rw [outcome_cookieFor, outcome_cookieFor]
        cases Url.originKeys url' with
        | error fault => rfl
        | ok keys' => simp only [hr, outcome_read_again hr]

end CredentialStore

end SiteReader
