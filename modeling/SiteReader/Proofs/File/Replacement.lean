import SiteReader.File.Replacement
import SiteReader.Proofs.File.System

/-!
# What a replacement leaves

The name of a temporary file is free (`ne_temporaryName`), so a replacement that nothing hinders is the same as one in a
single step (`replaceStepwise_none`).  One that is hindered leaves the file as it was (`entry?_replaceStepwise_of_failed`), and
every replacement leaves all other files as they were (`entry?_replaceStepwise_of_ne`).
-/

namespace SiteReader.FileSystem

/-! ### The temporary name -/

/-- No name that is there is longer than all of them together. -/
theorem length_le_nameLength {fs : FileSystem} {name : List String} {entry : FileEntry} (h : (name, entry) ∈ fs.entries) :
    (name.getLastD "").length ≤ fs.nameLength := by
  unfold nameLength
  generalize fs.entries = entries at h
  induction entries with
  | nil => cases h
  | cons first rest ih =>
    rw [List.foldr_cons]
    rcases List.mem_cons.mp h with hfirst | hrest
    · rw [← hfirst]
      dsimp only
      omega
    · have hle := ih hrest
      omega

theorem temporaryName_ne_nil (fs : FileSystem) (parts : List String) : fs.temporaryName parts ≠ [] :=
  List.append_ne_nil_of_right_ne_nil _ (List.cons_ne_nil _ _)

theorem length_temporaryName (fs : FileSystem) (parts : List String) :
    ((fs.temporaryName parts).getLastD "").length = 1 + (parts.getLastD "").length + 1 + (fs.nameLength + 1) := by
  have hpoint : ".".length = 1 := rfl
  simp [temporaryName, hpoint]

theorem temporaryName_ne (fs : FileSystem) (parts : List String) : fs.temporaryName parts ≠ parts := by
  intro h
  have hlength := fs.length_temporaryName parts
  rw [h] at hlength
  omega

/-- Nothing has the name of a temporary file. -/
theorem ne_temporaryName {fs : FileSystem} {name parts : List String} {entry : FileEntry}
    (h : (name, entry) ∈ fs.entries) : name ≠ fs.temporaryName parts := by
  intro heq
  have hle := length_le_nameLength h
  have hlength := fs.length_temporaryName parts
  rw [heq] at hle
  omega

theorem filter_temporaryName (fs : FileSystem) (parts : List String) :
    fs.entries.filter (·.1 != fs.temporaryName parts) = fs.entries := by
  refine List.filter_eq_self.mpr fun entry h => ?_
  have hne : entry.1 ≠ fs.temporaryName parts := ne_temporaryName h
  simpa using hne

/-! ### Temporary files that go -/

theorem entry?_erase_of_ne (fs : FileSystem) {parts other : List String} (h : other ≠ parts) :
    entry? (fs.erase parts) other = fs.entry? other := by
  cases other with
  | nil => rfl
  | cons part other => exact lookup_filter_ne h

theorem entry?_discard_of_ne (fs : FileSystem) {parts other : List String} (h : other ≠ parts) (stays : Bool) :
    entry? (fs.discard parts stays) other = fs.entry? other := by
  unfold discard
  split
  · rfl
  · exact fs.entry?_erase_of_ne h

/-- A temporary file that was taken away leaves nothing. -/
theorem erase_put_temporaryName (fs : FileSystem) (parts : List String) (entry : FileEntry) :
    (fs.put (fs.temporaryName parts) entry).erase (fs.temporaryName parts) = fs := by
  have hfilter := fs.filter_temporaryName parts
  simp [erase, put, hfilter]

/-- A temporary file that took the name of another one is the same as that one put there at once. -/
theorem rename_put_temporaryName (fs : FileSystem) (parts new : List String) (entry : FileEntry) :
    (fs.put (fs.temporaryName parts) entry).rename (fs.temporaryName parts) new = fs.put new entry := by
  rw [rename, entry?_put_self fs (fs.temporaryName_ne_nil parts)]
  simp only [erase_put_temporaryName]

/-! ### The whole replacement -/

/-- A replacement that nothing hinders is one in a single step. -/
theorem replaceStepwise_none (fs : FileSystem) (path : FilePath) (bytes : ByteArray) :
    fs.replaceStepwise .none path bytes = fs.replaceFile path bytes := by
  have hne : fs.locate path ≠ (fs.makeLeading (fs.locate path)).temporaryName (fs.locate path) :=
    (temporaryName_ne _ _).symm
  unfold replaceStepwise replaceFile
  cases ho : fs.isObstructed (fs.locate path) with
  | true => simp only [ho, ↓reduceIte]
  | false =>
    simp only [ho, Bool.false_eq_true, ↓reduceIte, entry?_put_of_ne _ hne, rename_put_temporaryName]
    cases entry? (fs.makeLeading (fs.locate path)) (fs.locate path) with
    | none => rfl
    | some entry =>
      cases entry with
      | file content => rfl
      | folder => simp only [discard, Bool.false_eq_true, ↓reduceIte, erase_put_temporaryName]

/-- A replacement either is made as a whole, or it ends with some of the folders made and at most a temporary file beside the
one that was to be replaced. -/
theorem replaceStepwise_cases (fs : FileSystem) (hindrance : Hindrance) (path : FilePath) (bytes : ByteArray) :
    (hindrance = .none ∧ fs.replaceStepwise hindrance path bytes =
      (true, (fs.makeLeading (fs.locate path)).put (fs.locate path) (.file bytes))) ∨
    ∃ folders ready, folders ⊆ leading (fs.locate path) ∧ ready = folders.foldl makeFolder fs ∧
      (fs.replaceStepwise hindrance path bytes = (false, ready) ∨
        ∃ content stays, fs.replaceStepwise hindrance path bytes =
          (false, (ready.put (ready.temporaryName (fs.locate path)) (.file content)).discard
            (ready.temporaryName (fs.locate path)) stays)) := by
  unfold replaceStepwise
  generalize fs.locate path = parts
  cases ho : fs.isObstructed parts with
  | true =>
    simp only [ho, ↓reduceIte]
    exact .inr ⟨[], fs, List.nil_subset _, rfl, .inl rfl⟩
  | false =>
    simp only [ho, Bool.false_eq_true, ↓reduceIte]
    have hall : leading parts ⊆ leading parts := List.Subset.refl _
    cases hindrance with
    | folders made => exact .inr ⟨_, _, List.take_subset made _, rfl, .inl rfl⟩
    | temporary => exact .inr ⟨_, _, hall, rfl, .inl rfl⟩
    | filling written stays => exact .inr ⟨_, _, hall, rfl, .inr ⟨_, stays, rfl⟩⟩
    | placing stays => exact .inr ⟨_, _, hall, rfl, .inr ⟨_, stays, rfl⟩⟩
    | none =>
      dsimp only
      split
      next => exact .inr ⟨_, _, hall, rfl, .inr ⟨_, false, rfl⟩⟩
      next => exact .inl ⟨rfl, by rw [rename_put_temporaryName]⟩

/-- A file that is not replaced stays as it was. -/
theorem entry?_replaceStepwise_of_failed {fs : FileSystem} {hindrance : Hindrance} {path : FilePath} {bytes : ByteArray}
    (h : (fs.replaceStepwise hindrance path bytes).1 = false) :
    entry? (fs.replaceStepwise hindrance path bytes).2 (fs.locate path) = fs.entry? (fs.locate path) := by
  rcases fs.replaceStepwise_cases hindrance path bytes with ⟨-, heq⟩ | ⟨folders, ready, hfolders, rfl, hready⟩
  · rw [heq] at h
    cases h
  · have hfile := fs.entry?_makeFolders_of_not_mem fun hmem => not_mem_leading (fs.locate path) (hfolders hmem)
    rcases hready with heq | ⟨content, stays, heq⟩
    · rw [heq, hfile]
    · have hne := (temporaryName_ne (folders.foldl makeFolder fs) (fs.locate path)).symm
      rw [heq, entry?_discard_of_ne _ hne, entry?_put_of_ne _ hne, hfile]

/-- A file that is replaced holds what it is replaced with. -/
theorem entry?_replaceStepwise_of_done {fs : FileSystem} {hindrance : Hindrance} {path : FilePath} {bytes : ByteArray}
    (h : (fs.replaceStepwise hindrance path bytes).1 = true) (hne : fs.locate path ≠ []) :
    entry? (fs.replaceStepwise hindrance path bytes).2 (fs.locate path) = some (.file bytes) := by
  rcases fs.replaceStepwise_cases hindrance path bytes with ⟨-, heq⟩ | ⟨_, _, -, -, heq | ⟨_, _, heq⟩⟩
  · rw [heq, entry?_put_self _ hne]
  · rw [heq] at h
    cases h
  · rw [heq] at h
    cases h

theorem ne_temporaryName_of_file {fs : FileSystem} {other : List String} {content : ByteArray}
    (h : fs.entry? other = some (.file content)) (parts : List String) : other ≠ fs.temporaryName parts := by
  cases other with
  | nil => exact (fs.temporaryName_ne_nil parts).symm
  | cons part other =>
    obtain ⟨before, after, hentries, -⟩ := List.lookup_eq_some_iff.mp h
    have hmem : (part :: other, .file content) ∈ fs.entries := by
      rw [hentries]
      exact List.mem_append_right before List.mem_cons_self
    exact ne_temporaryName hmem

/-- Other files stay as they were. -/
theorem entry?_replaceStepwise_of_ne {fs : FileSystem} (hindrance : Hindrance) {path : FilePath} (bytes : ByteArray)
    {other : List String} {content : ByteArray} (hne : other ≠ fs.locate path)
    (h : fs.entry? other = some (.file content)) :
    entry? (fs.replaceStepwise hindrance path bytes).2 other = some (.file content) := by
  rcases fs.replaceStepwise_cases hindrance path bytes with ⟨-, heq⟩ | ⟨folders, ready, -, rfl, hready⟩
  · rw [heq, entry?_put_of_ne _ hne, entry?_makeLeading_eq_file.mpr h]
  · have hfile : entry? (folders.foldl makeFolder fs) other = some (.file content) :=
      (entry?_makeFolders_eq_file folders).mpr h
    rcases hready with heq | ⟨filled, stays, heq⟩
    · rw [heq, hfile]
    · have htemporary := ne_temporaryName_of_file hfile (fs.locate path)
      rw [heq, entry?_discard_of_ne _ htemporary, entry?_put_of_ne _ htemporary, hfile]

theorem home_replaceStepwise (fs : FileSystem) (hindrance : Hindrance) (path : FilePath) (bytes : ByteArray) :
    (fs.replaceStepwise hindrance path bytes).2.home = fs.home := by
  rcases fs.replaceStepwise_cases hindrance path bytes with ⟨-, heq⟩ | ⟨folders, ready, -, rfl, hready⟩
  · rw [heq]
    exact home_makeLeading fs _
  · have hhome := home_makeFolders folders fs
    rcases hready with heq | ⟨filled, stays, heq⟩
    · rw [heq]
      exact hhome
    · rw [heq]
      cases stays <;> exact hhome

end SiteReader.FileSystem
