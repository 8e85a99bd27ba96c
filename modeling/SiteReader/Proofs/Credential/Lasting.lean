import SiteReader.Proofs.Credential.Record
import SiteReader.Proofs.Credential.Store

/-!
# Reading after writing

Writing takes any record, while reading refuses one that tells no source.  So what was written can be read if and only if
each record tells its source (`readable_of_write`), and since all records that were read do, an upsert keeps the store
readable if and only if the new record does (`readable_of_upsert`).
-/

namespace SiteReader.CredentialStore

/-- The records of a store can be read. -/
def Readable (store : CredentialStore) (fs : FileSystem) : Prop :=
  ∃ records, (outcome store.read fs).1 = .ok records

variable {store : CredentialStore} {fs fs' : FileSystem}

theorem outcome_read_of_write {records : List Credential} (hk : ∀ record ∈ records, record.Keyed)
    (h : outcome (store.write records) fs = (.ok (), fs')) :
    outcome store.read fs' = ((Credential.readBack records).mapError .store, fs') := by
  rw [outcome_read_of_content (openFile_of_write h), Credential.ofFileText_fileText hk]

/-- What was written can be read if and only if every record tells its source. -/
theorem readable_of_write {records : List Credential} (hk : ∀ record ∈ records, record.Keyed)
    (h : outcome (store.write records) fs = (.ok (), fs')) :
    store.Readable fs' ↔ ∀ record ∈ records, record.sourceId ≠ "" := by
  rw [Readable, outcome_read_of_write hk h, ← Credential.readBack_eq_ok_iff]
  cases Credential.readBack records with
  | error cause => exact iff_of_false (fun ⟨_, hr⟩ => nomatch hr) fun ⟨_, hr⟩ => nomatch hr
  | ok read => exact iff_of_true ⟨read, rfl⟩ ⟨read, rfl⟩

/-- What a successful read says: there was no file, which now exists, or the file has these records. -/
theorem read_cases {records : List Credential} (h : outcome store.read fs = (.ok records, fs')) :
    (records = [] ∧ outcome (store.write []) fs = (.ok (), fs')) ∨
      ∃ bytes text, fs'.openFile store.path = .content bytes ∧ Credential.ofFileText store.path.text text = .ok records := by
  rw [outcome_read] at h
  cases ho : fs.openFile store.path with
  | missing =>
    simp only [ho] at h
    rcases hw : outcome (store.write []) fs with ⟨failure | _, written⟩
    · rw [hw] at h
      cases h
    · rw [hw] at h
      cases h
      exact .inl ⟨rfl, rfl⟩
  | refused =>
    simp only [ho] at h
    cases h
  | content bytes =>
    simp only [ho, Prod.mk.injEq] at h
    obtain ⟨h, rfl⟩ := h
    cases hu : String.fromUTF8? bytes with
    | none =>
      rw [hu] at h
      cases h
    | some text =>
      simp only [hu] at h
      cases hr : Credential.ofFileText store.path.text text with
      | error cause =>
        rw [hr] at h
        cases h
      | ok read =>
        rw [hr] at h
        cases h
        exact .inr ⟨bytes, text, ho, hr⟩

theorem storable_of_read {records : List Credential} (h : outcome store.read fs = (.ok records, fs')) :
    ∀ record ∈ records, record.Storable := by
  rcases read_cases h with ⟨rfl, -⟩ | ⟨_, _, -, hr⟩
  · exact List.forall_mem_nil _
  · exact Credential.storable_of_ofFileText hr

theorem storable_of_find {sourceId : String} {record? : Option Credential}
    (h : outcome (store.find? sourceId) fs = (.ok record?, fs')) :
    ∀ record ∈ record?, record.Storable ∧ record.sourceId = sourceId := by
  intro record hr
  rw [outcome_find] at h
  rcases hread : outcome store.read fs with ⟨failure | records, read⟩
  · rw [hread] at h
    cases h
  · rw [hread] at h
    cases h
    exact ⟨storable_of_read hread record (List.mem_of_find?_eq_some hr), by simpa using List.find?_some hr⟩

/-- A store that was read can be written. -/
theorem openFile_of_read {records : List Credential} (h : outcome store.read fs = (.ok records, fs')) :
    fs'.openFile store.path ≠ .refused := by
  rcases read_cases h with ⟨-, hw⟩ | ⟨bytes, _, ho, -⟩
  · rw [openFile_of_write hw]
    exact nofun
  · rw [ho]
    exact nofun

/-- A store to which a record was added can be read if and only if that record tells its source. -/
theorem readable_of_upsert {record : Credential} (hk : record.Keyed)
    (h : outcome (store.upsert record) fs = (.ok (), fs')) : store.Readable fs' ↔ record.sourceId ≠ "" := by
  rw [outcome_upsert] at h
  rcases hr : outcome store.read fs with ⟨failure | records, read⟩
  · rw [hr] at h
    cases h
  · rw [hr] at h
    have hs := storable_of_read hr
    have hkeyed : ∀ existing ∈ Credential.upsert record records, existing.Keyed := fun existing he =>
      (Credential.mem_upsert he).elim (fun heq => heq ▸ hk) fun he => (hs existing he).toKeyed
    rw [readable_of_write hkeyed h]
    constructor
    · exact fun hall => hall record (Credential.mem_upsert_self record records)
    · exact fun hid existing he => (Credential.mem_upsert he).elim (fun heq => heq ▸ hid) fun he => (hs existing he).sourceId

theorem readable_of_missing (h : fs.openFile store.path = .missing) : store.Readable fs := by
  have hopen : fs.openFile store.path ≠ .refused := by
    rw [h]
    exact nofun
  obtain ⟨fs', hw⟩ := exists_outcome_write hopen []
  refine ⟨[], ?_⟩
  rw [outcome_read, h]
  simp only [hw]
  rfl

/-- A record can always be added to a store that can be read. -/
theorem Readable.exists_upsert (h : store.Readable fs) (record : Credential) :
    ∃ fs', outcome (store.upsert record) fs = (.ok (), fs') := by
  obtain ⟨records, hr⟩ := h
  have hread : outcome store.read fs = (.ok records, (outcome store.read fs).2) := Prod.ext hr rfl
  obtain ⟨fs', hw⟩ := exists_outcome_write (openFile_of_read hread) (Credential.upsert record records)
  exact ⟨fs', by rw [outcome_upsert, hread]; exact hw⟩

theorem Readable.exists_cookieFor (h : store.Readable fs) (sourceId url : String) :
    ∃ cookie, (outcome (store.cookieFor sourceId url) fs).1 = .ok cookie := by
  obtain ⟨records, hr⟩ := h
  rw [outcome_cookieFor]
  cases Url.originKeys url with
  | error fault => exact ⟨"", rfl⟩
  | ok keys =>
    simp only [hr]
    exact ⟨_, rfl⟩

/-! ### What lasts -/

/-- The store can be read, and relative names are told from a home folder. -/
structure Lasts (store : CredentialStore) (home : FilePath) (fs : FileSystem) : Prop where
  home_eq : fs.home = home
  readable : store.Readable fs

variable {home : FilePath}

theorem Lasts.preserves_read : Preserves (store.Lasts home) store.read := by
  intro fs h
  obtain ⟨records, hr⟩ := h.readable
  exact ⟨store.preserves_home_read home fs h.home_eq, records, outcome_read_again (Prod.ext hr rfl)⟩

theorem Lasts.find (h : store.Lasts home fs) (sourceId : String) :
    ∃ record? fs', outcome (store.find? sourceId) fs = (.ok record?, fs') ∧ store.Lasts home fs' ∧
      ∀ record ∈ record?, record.Storable ∧ record.sourceId = sourceId := by
  obtain ⟨records, hr⟩ := h.readable
  have hfind : outcome (store.find? sourceId) fs =
      (.ok (Credential.find? sourceId records), (outcome store.read fs).2) := by
    rw [outcome_find, hr]
    rfl
  exact ⟨_, _, hfind, Lasts.preserves_read fs h, storable_of_find hfind⟩

theorem Lasts.cookieFor (h : store.Lasts home fs) (sourceId url : String) :
    ∃ cookie fs', outcome (store.cookieFor sourceId url) fs = (.ok cookie, fs') ∧ store.Lasts home fs' := by
  obtain ⟨cookie, hc⟩ := h.readable.exists_cookieFor sourceId url
  exact ⟨cookie, _, Prod.ext hc rfl, preserves_cookieFor Lasts.preserves_read sourceId url fs h⟩

end SiteReader.CredentialStore
