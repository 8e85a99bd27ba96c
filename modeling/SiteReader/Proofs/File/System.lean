import SiteReader.File.System

/-!
# Reading back what was written

Putting an entry changes what its own name leads to and nothing else (`entry?_put_self`, `entry?_put_of_ne`), and making
folders changes no file (`entry?_makeLeading_eq_file`).  A file that was replaced holds what it was replaced with
(`openFile_replaceFile`), and a file that is missing or can be read can be replaced (`replaceFile_of_openFile`).
-/

namespace SiteReader.FileSystem

/-! ### One entry -/

theorem lookup_filter_ne {entries : List (List String × FileEntry)} {parts other : List String}
    (h : other ≠ parts) : (entries.filter (·.1 != parts)).lookup other = entries.lookup other := by
  induction entries with
  | nil => rfl
  | cons entry rest ih =>
    obtain ⟨name, e⟩ := entry
    by_cases hn : name = parts
    · subst hn
      have hb : (other == name) = false := beq_eq_false_iff_ne.mpr h
      simp [List.lookup_cons, hb, ih]
    · simp [hn, List.lookup_cons, ih]

private theorem lookup_filter_self (entries : List (List String × FileEntry)) (parts : List String) :
    (entries.filter (·.1 != parts)).lookup parts = none := by
  rw [List.lookup_eq_none_iff]
  intro entry h
  have := (List.mem_filter.mp h).2
  simp only [bne_iff_ne, ne_eq] at this
  simpa using Ne.symm this

theorem entry?_put_self (fs : FileSystem) {parts : List String} (h : parts ≠ []) (entry : FileEntry) :
    entry? (fs.put parts entry) parts = some entry := by
  cases parts with
  | nil => exact absurd rfl h
  | cons part parts => simp [ entry?, put, List.lookup_append, lookup_filter_self]

theorem entry?_put_of_ne (fs : FileSystem) {parts other : List String} (h : other ≠ parts) (entry : FileEntry) :
    entry? (fs.put parts entry) other = fs.entry? other := by
  cases other with
  | nil => rfl
  | cons part other =>
    have hb : (part :: other == parts) = false := beq_eq_false_iff_ne.mpr h
    simp only [ entry?, put, List.lookup_append, lookup_filter_ne h, List.lookup_cons, hb, List.lookup_nil, Option.or_none]

/-! ### Folders on the way -/

theorem entry?_makeFolder_eq_file {fs : FileSystem} {parts other : List String} {bytes : ByteArray} :
    entry? (fs.makeFolder parts) other = some (.file bytes) ↔ fs.entry? other = some (.file bytes) := by
  unfold makeFolder
  cases h : fs.entry? parts with
  | some entry => rfl
  | none =>
    by_cases ho : other = parts
    · subst ho
      cases other with
      | nil => simp [ entry?] at h
      | cons part other => simp [entry?_put_self, h]
    · rw [entry?_put_of_ne fs ho]

theorem entry?_makeFolders_eq_file {fs : FileSystem} (folders : List (List String)) {other : List String}
    {bytes : ByteArray} :
    entry? (folders.foldl makeFolder fs) other = some (.file bytes) ↔ fs.entry? other = some (.file bytes) := by
  induction folders generalizing fs with
  | nil => rfl
  | cons folder rest ih => rw [List.foldl_cons, ih, entry?_makeFolder_eq_file]

theorem entry?_makeLeading_eq_file {fs : FileSystem} {parts other : List String} {bytes : ByteArray} :
    entry? (fs.makeLeading parts) other = some (.file bytes) ↔ fs.entry? other = some (.file bytes) :=
  entry?_makeFolders_eq_file (leading parts)

theorem home_makeFolders (folders : List (List String)) (fs : FileSystem) :
    (folders.foldl makeFolder fs).home = fs.home := by
  induction folders generalizing fs with
  | nil => rfl
  | cons folder rest ih =>
    rw [List.foldl_cons, ih]
    unfold makeFolder
    split <;> rfl

@[simp] theorem home_makeLeading (fs : FileSystem) (parts : List String) : (fs.makeLeading parts).home = fs.home :=
  home_makeFolders (leading parts) fs

theorem isObstructed_eq_true_iff {fs : FileSystem} {parts : List String} :
    fs.isObstructed parts = true ↔ ∃ folder ∈ leading parts, ∃ bytes, fs.entry? folder = some (.file bytes) := by
  rw [isObstructed, List.any_eq_true]
  refine exists_congr fun folder => and_congr_right fun _ => ?_
  constructor
  · intro h
    split at h
    next bytes he => exact ⟨bytes, he⟩
    next => cases h
  · rintro ⟨bytes, he⟩
    rw [he]

theorem ne_of_mem_leading {folder parts : List String} (h : folder ∈ leading parts) : folder ≠ parts := by
  obtain ⟨n, hn, rfl⟩ := List.mem_map.mp h
  intro he
  have := congrArg List.length he
  rw [List.length_take] at this
  have := List.mem_range.mp hn
  omega

/-! ### Whole files -/

theorem locate_eq_of_home {fs fs' : FileSystem} (h : fs'.home = fs.home) (path : FilePath) :
    fs'.locate path = fs.locate path := by
  rw [locate, locate, h]

private theorem isObstructed_put_makeLeading {fs : FileSystem} {parts : List String} (entry : FileEntry)
    (h : fs.isObstructed parts = false) : ((fs.makeLeading parts).put parts entry).isObstructed parts = false := by
  rw [← Bool.not_eq_true, isObstructed_eq_true_iff] at h ⊢
  rintro ⟨folder, hf, bytes, he⟩
  rw [entry?_put_of_ne _ (ne_of_mem_leading hf), entry?_makeLeading_eq_file] at he
  exact h ⟨folder, hf, bytes, he⟩

/-- A file that was replaced holds the new content. -/
theorem openFile_replaceFile {fs : FileSystem} {path : FilePath} {bytes : ByteArray}
    (h : (fs.replaceFile path bytes).1 = true) :
    (fs.replaceFile path bytes).2.openFile path = .content bytes := by
  unfold replaceFile at h ⊢
  cases ho : fs.isObstructed (fs.locate path) with
  | true => simp [ho] at h
  | false =>
    simp only [ho, Bool.false_eq_true, ↓reduceIte] at h ⊢
    -- the home folder itself is never replaced
    have hne : fs.locate path ≠ [] := by
      intro hp
      simp [hp, entry?] at h
    split at h
    next => cases h
    next =>
      have hl : ((fs.makeLeading (fs.locate path)).put (fs.locate path) (.file bytes)).locate path = fs.locate path :=
        locate_eq_of_home (home_makeLeading fs _) path
      simp only [openFile, hl, isObstructed_put_makeLeading (.file bytes) ho, entry?_put_self _ hne,
        Bool.false_eq_true, ↓reduceIte]

theorem entry?_makeFolders_of_not_mem (fs : FileSystem) {folders : List (List String)} {parts : List String}
    (h : parts ∉ folders) : entry? (folders.foldl makeFolder fs) parts = fs.entry? parts := by
  induction folders generalizing fs with
  | nil => rfl
  | cons folder rest ih =>
    rw [List.foldl_cons, ih _ (List.not_mem_of_not_mem_cons h)]
    unfold makeFolder
    cases fs.entry? folder with
    | some _ => rfl
    | none => exact entry?_put_of_ne fs (List.ne_of_not_mem_cons h) .folder

theorem not_mem_leading (parts : List String) : parts ∉ leading parts :=
  fun h => ne_of_mem_leading h rfl

theorem entry?_makeLeading_self (fs : FileSystem) (parts : List String) :
    entry? (fs.makeLeading parts) parts = fs.entry? parts :=
  entry?_makeFolders_of_not_mem fs (not_mem_leading parts)

/-- A file that is missing or can be read can be replaced. -/
theorem replaceFile_of_openFile {fs : FileSystem} {path : FilePath} (h : fs.openFile path ≠ .refused)
    (bytes : ByteArray) : (fs.replaceFile path bytes).1 = true := by
  unfold openFile at h
  unfold replaceFile
  cases ho : fs.isObstructed (fs.locate path) with
  | true => simp [ho] at h
  | false =>
    simp only [ho, Bool.false_eq_true, ↓reduceIte, entry?_makeLeading_self] at h ⊢
    split
    next he => simp [he] at h
    next => rfl

theorem entry?_of_openFile_missing {fs : FileSystem} {path : FilePath} (h : fs.openFile path = .missing) :
    fs.entry? (fs.locate path) = none := by
  unfold openFile at h
  dsimp only at h
  split at h
  next => cases h
  next =>
    split at h
    next => cases h
    next => cases h
    next hnone => exact hnone

theorem home_replaceFile (fs : FileSystem) (path : FilePath) (bytes : ByteArray) :
    (fs.replaceFile path bytes).2.home = fs.home := by
  unfold replaceFile
  dsimp only
  split
  next => rfl
  next => split <;> exact home_makeLeading fs _

/-! ### Files that stay -/

/-- Each file is still there, with the same content. -/
def KeepsFiles (fs fs' : FileSystem) : Prop :=
  ∀ name bytes, fs.entry? name = some (.file bytes) → fs'.entry? name = some (.file bytes)

theorem KeepsFiles.refl (fs : FileSystem) : fs.KeepsFiles fs :=
  fun _ _ h => h

theorem KeepsFiles.trans {a b c : FileSystem} (hab : a.KeepsFiles b) (hbc : b.KeepsFiles c) : a.KeepsFiles c :=
  fun name bytes h => hbc name bytes (hab name bytes h)

end SiteReader.FileSystem
