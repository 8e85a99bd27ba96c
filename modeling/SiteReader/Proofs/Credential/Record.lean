import SiteReader.Credential.Record
import SiteReader.Proofs.Json.Keys
import SiteReader.Proofs.Json.Printer

/-!
# Records in their file

Whatever the texts of its records, the content of the file is read back as the list of trees that was printed
(`parse?_fileText`), and so the records are read back, if only each of them tells its source (`ofFileText_fileText`).
Records that were read from any file always do (`storable_of_ofFileText`).
-/

namespace SiteReader.Credential

open Json (Part Printable)

/-- No key of a record is given twice. -/
structure Keyed (record : Credential) : Prop where
  cookies : (record.cookies.map Prod.fst).Nodup
  tokens : (record.tokens.map Prod.fst).Nodup

/-- A record that tells its source and gives no key twice. -/
structure Storable (record : Credential) : Prop extends record.Keyed where
  sourceId : record.sourceId ≠ ""

/-! ### Lists of records -/

theorem mem_upsert {record existing : Credential} {records : List Credential}
    (h : existing ∈ upsert record records) : existing = record ∨ existing ∈ records := by
  induction records with
  | nil => exact .inl (List.mem_singleton.mp h)
  | cons first rest ih =>
    unfold upsert at h
    split at h
    · exact (List.mem_cons.mp h).imp_right (List.mem_cons_of_mem _)
    · rcases List.mem_cons.mp h with rfl | h
      · exact .inr List.mem_cons_self
      · exact (ih h).imp_right (List.mem_cons_of_mem _)

theorem mem_upsert_self (record : Credential) (records : List Credential) : record ∈ upsert record records := by
  induction records with
  | nil => exact List.mem_singleton_self record
  | cons first rest ih =>
    unfold upsert
    split
    · exact List.mem_cons_self
    · exact List.mem_cons_of_mem _ ih

theorem find?_upsert (sourceId : String) (record : Credential) (records : List Credential) :
    List.find? (·.sourceId = sourceId) (upsert record records) =
      if record.sourceId = sourceId then some record else records.find? (·.sourceId = sourceId) := by
  induction records with
  | nil => by_cases h : record.sourceId = sourceId <;> simp [upsert, h]
  | cons existing rest ih =>
    rw [upsert]
    by_cases he : existing.sourceId = record.sourceId
    · by_cases h : record.sourceId = sourceId <;> simp [he, h]
    · rw [if_neg he, List.find?_cons, List.find?_cons, ih]
      by_cases h : existing.sourceId = sourceId
      · have : record.sourceId ≠ sourceId := fun heq => he (h.trans heq.symm)
        simp [h, this]
      · simp [h]

/-! ### Printing -/

theorem printable_mapTree {entries : List (String × String)} (h : (entries.map Prod.fst).Nodup) :
    Printable (mapTree entries) := by
  refine .object (by simpa [Function.comp_def] using h) fun entry hm => ?_
  obtain ⟨field, -, rfl⟩ := List.mem_map.mp hm
  exact .text field.2

theorem Keyed.printable {record : Credential} (h : record.Keyed) : Printable record.toTree := by
  refine .object (by simp) ?_
  simp [printable_mapTree h.cookies, printable_mapTree h.tokens, Printable.text]

private theorem integer_not_mem_mapTree (n : Int) (entries : List (String × String)) :
    Tree.integer n ∉ (mapTree entries).preorder := by
  rw [mapTree, Tree.preorder, Tree.preorderFields_eq, List.mem_cons, List.mem_flatMap]
  rintro (h | ⟨t, ht, h⟩)
  · cases h
  · obtain ⟨entry, -, rfl⟩ : ∃ entry ∈ entries, Tree.text entry.2 = t := by simpa using ht
    simp [Tree.preorder] at h

private theorem integer_not_mem_toTree (n : Int) (record : Credential) : Tree.integer n ∉ record.toTree.preorder := by
  simp [toTree, Tree.preorder, Tree.preorderFields, integer_not_mem_mapTree]

theorem fits_records (records : List Credential) : (Part.value (.array (records.map toTree))).Fits := by
  refine Json.fits_of_no_integer fun n => ?_
  simp [Part.nodes, Tree.preorder, Tree.preorderItems_eq, List.mem_flatMap, integer_not_mem_toTree]

theorem parse?_fileText {records : List Credential} (h : ∀ record ∈ records, record.Keyed) :
    Json.parse? (fileText records) = some (.array (records.map toTree)) := by
  rw [Json.parse?, fileText, Json.render, String.toList_ofList]
  refine Json.read?_print Json.standard_indented (.array fun t ht => ?_) (fits_records records)
  obtain ⟨record, hr, rfl⟩ := List.mem_map.mp ht
  exact (h record hr).printable

theorem isEmpty_trimmed_fileText (records : List Credential) : (trimmed (fileText records)).isEmpty = false := by
  have hhead : '[' ∈ (fileText records).toList := by
    rw [fileText, Json.render, String.toList_ofList, Json.print]
    cases records <;> simp [Json.printAt]
  have hne : Text.trim (fileText records).toList ≠ [] := fun h =>
    absurd (Text.trim_eq_nil_iff.mp h '[' hhead) (by decide)
  rw [trimmed, Bool.eq_false_iff, ne_eq, String.isEmpty_iff, ← String.toList_inj, String.toList_ofList]
  exact hne

/-! ### Reading -/

@[simp] theorem textMap_mapTree (entries : List (String × String)) : textMap (some (mapTree entries)) = entries := by
  simp only [textMap, mapTree, List.filterMap_map]
  exact List.filterMap_some

theorem ofFields_toTree (record : Credential) : ofFields [("sourceId", .text record.sourceId),
    ("cookies", mapTree record.cookies), ("tokens", mapTree record.tokens)] =
      if record.sourceId = "" then .error (.recordWithoutId record.toTree.quotedText) else .ok record := by
  simp [ofFields, Tree.field?, toTree]

/-- What comes of records that are read back: the first one that tells no source keeps all of them from being read. -/
def readBack (records : List Credential) : Except StoreCause (List Credential) :=
  match records.find? (·.sourceId = "") with
  | none => .ok records
  | some record => .error (.recordWithoutId record.toTree.quotedText)

theorem readBack_cons (record : Credential) (rest : List Credential) : readBack (record :: rest) =
    if record.sourceId = "" then .error (.recordWithoutId record.toTree.quotedText)
    else (readBack rest).map (record :: ·) := by
  unfold readBack
  by_cases h : record.sourceId = ""
  · rw [if_pos h, List.find?_cons_of_pos (by simpa using h)]
  · rw [if_neg h, List.find?_cons_of_neg (by simpa using h)]
    cases rest.find? (·.sourceId = "") <;> rfl

theorem readBack_of_storable {records : List Credential} (h : ∀ record ∈ records, record.Storable) :
    readBack records = .ok records := by
  have hnone : records.find? (·.sourceId = "") = none :=
    List.find?_eq_none.mpr fun record hr => by simpa using (h record hr).sourceId
  rw [readBack, hnone]

theorem readBack_eq_ok_iff {records : List Credential} :
    (∃ read, readBack records = .ok read) ↔ ∀ record ∈ records, record.sourceId ≠ "" := by
  unfold readBack
  constructor
  · rintro ⟨read, h⟩
    split at h
    next hnone => simpa using hnone
    next => cases h
  · intro h
    have hnone : records.find? (·.sourceId = "") = none := by simpa using h
    exact ⟨records, by rw [hnone]⟩

theorem ofItems_toTree (records : List Credential) : ofItems (records.map toTree) = readBack records := by
  induction records with
  | nil => rfl
  | cons record rest ih =>
    rw [List.map_cons, toTree, ofItems, ofFields_toTree, ih, readBack_cons]
    by_cases hid : record.sourceId = ""
    · rw [if_pos hid, if_pos hid]
      rfl
    · rw [if_neg hid, if_neg hid]
      cases readBack rest <;> rfl

theorem ofFileText_fileText {records : List Credential} (h : ∀ record ∈ records, record.Keyed) (path : String) :
    ofFileText path (fileText records) = readBack records := by
  rw [ofFileText, isEmpty_trimmed_fileText, parse?_fileText h, ← ofItems_toTree]
  rfl

theorem ofFileText_blank {text : String} (h : Text.Blanks text.toList) (path : String) :
    ofFileText path text = .ok [] := by
  rw [ofFileText, trimmed, Text.trim_eq_nil_iff.mpr h]
  rfl

theorem ofFileText_storable {records : List Credential} (h : ∀ record ∈ records, record.Storable) (path : String) :
    ofFileText path (fileText records) = .ok records := by
  rw [ofFileText_fileText fun record hr => (h record hr).toKeyed, readBack_of_storable h]

/-! ### Reading any file -/

theorem map_fst_textMap_sublist (fields : List (String × Tree)) :
    ((textMap (some (.object fields))).map Prod.fst).Sublist (fields.map Prod.fst) := by
  induction fields with
  | nil => exact .slnil
  | cons field rest ih =>
    obtain ⟨key, value⟩ := field
    cases value with
    | null => exact .cons key ih
    | _ => exact .cons_cons key ih

theorem nodup_textMap {value? : Option Tree} (h : ∀ value, value? = some value → value.Keyed) :
    ((textMap value?).map Prod.fst).Nodup := by
  unfold textMap
  split
  next fields =>
    exact (Tree.keyed_object.mp (h _ rfl)).1.sublist (map_fst_textMap_sublist fields)
  next => exact List.nodup_nil

theorem storable_of_ofFields {fields : List (String × Tree)} {record : Credential} (hk : (Tree.object fields).Keyed)
    (h : ofFields fields = .ok record) : record.Storable := by
  have hvalue (name : String) : ∀ value, Tree.field? name fields = some value → value.Keyed :=
    fun value hv => (Tree.keyed_object.mp hk).2 _ (Tree.mem_of_field? hv)
  unfold ofFields at h
  split at h
  next id _ =>
    split at h
    next => cases h
    next hid =>
      obtain rfl := Except.ok.inj h
      exact ⟨⟨nodup_textMap (hvalue "cookies"), nodup_textMap (hvalue "tokens")⟩, fun he => hid (String.isEmpty_iff.mpr he)⟩
  next => cases h

theorem storable_of_ofItems {items : List Tree} {records : List Credential} (hk : ∀ t ∈ items, t.Keyed)
    (h : ofItems items = .ok records) : ∀ record ∈ records, record.Storable := by
  induction items generalizing records with
  | nil =>
    obtain rfl := Except.ok.inj h
    exact List.forall_mem_nil _
  | cons t rest ih =>
    obtain ⟨ht, hrest⟩ := List.forall_mem_cons.mp hk
    cases t with
    | object fields =>
      rw [ofItems] at h
      cases hr : ofFields fields with
      | error cause =>
        rw [hr] at h
        cases h
      | ok record =>
        cases hs : ofItems rest with
        | error cause =>
          rw [hr, hs] at h
          cases h
        | ok others =>
          rw [hr, hs] at h
          obtain rfl := Except.ok.inj h
          exact List.forall_mem_cons.mpr ⟨storable_of_ofFields ht hr, ih hrest hs⟩
    | _ => exact ih hrest h

/-- The records of a file that can be read can be stored. -/
theorem storable_of_ofFileText {path text : String} {records : List Credential}
    (h : ofFileText path text = .ok records) : ∀ record ∈ records, record.Storable := by
  unfold ofFileText at h
  split at h
  next =>
    obtain rfl := Except.ok.inj h
    exact List.forall_mem_nil _
  next =>
    split at h
    next => cases h
    next items hp => exact storable_of_ofItems (Tree.keyed_array.mp (Json.keyed_of_parse? hp)) h
    next => cases h

end SiteReader.Credential
