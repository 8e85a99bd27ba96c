import SiteReader.Proofs.Credential.Record
import SiteReader.Proofs.Credential.Store

/-!
# The store as a list in memory

A store behaves as a list of records that is kept in memory: one call answers what the list answers and leaves a file that
stands for the changed list (`Holds.answer`), and so does every sequence of calls (`run_as_list`).  What the list answers
is said with the operations of lists alone.
-/

namespace SiteReader

/-! ### Calls and their answers -/

/-- A call of a credential store. -/
inductive StoreCall where
  | saveAll (records : List Credential)
  | upsert (record : Credential)
  | get (sourceId : String)
  | loadAll
  | cookieFor (sourceId url : String)

/-- What a call returns. -/
inductive StoreAnswer where
  | done
  | record (record? : Option Credential)
  | records (records : List Credential)
  | cookie (cookie : String)

namespace CredentialStore

/-- Makes a call. -/
def answer (store : CredentialStore) : StoreCall → Filed StoreAnswer
  | .saveAll records => do
    store.write records
    return .done
  | .upsert record => do
    store.upsert record
    return .done
  | .get sourceId => return .record (← store.find? sourceId)
  | .loadAll => return .records (← store.read)
  | .cookieFor sourceId url => return .cookie (← store.cookieFor sourceId url)

/-- Makes calls one after the other. -/
def run (store : CredentialStore) : List StoreCall → Filed (List StoreAnswer)
  | [] => return []
  | call :: rest => do
    let answer ← store.answer call
    return answer :: (← store.run rest)

end CredentialStore

namespace StoreCall

/-- The list after a call: a record takes the place of the first one of its source, or the last place. -/
def after (records : List Credential) : StoreCall → List Credential
  | saveAll saved => saved
  | upsert record =>
    match records.findIdx? (·.sourceId = record.sourceId) with
    | some i => records.set i record
    | none => records ++ [record]
  | _ => records

/-- The first non-empty cookie of the first record of a source, in the order of the keys of a URL. -/
def cookieIn (records : List Credential) (sourceId url : String) : String :=
  match Url.originKeys url, records.find? (·.sourceId = sourceId) with
  | .ok keys, some record => (keys.findSome? fun key => (record.cookies.lookup key).filter (· ≠ "")).getD ""
  | _, _ => ""

/-- What the list answers to a call. -/
def answerIn (records : List Credential) : StoreCall → StoreAnswer
  | saveAll _ => .done
  | upsert _ => .done
  | get sourceId => .record (records.find? (·.sourceId = sourceId))
  | loadAll => .records records
  | cookieFor sourceId url => .cookie (cookieIn records sourceId url)

/-- The list after some calls. -/
def afterAll (records : List Credential) (calls : List StoreCall) : List Credential :=
  calls.foldl after records

/-- What the list answers to calls one after the other. -/
def answersIn : List Credential → List StoreCall → List StoreAnswer
  | _, [] => []
  | records, call :: rest => call.answerIn records :: answersIn (call.after records) rest

end StoreCall

/-! ### Files that stand for lists -/

/-- All records that a call writes can be stored. -/
def StoreCall.Storable : StoreCall → Prop
  | saveAll records => ∀ record ∈ records, record.Storable
  | upsert record => record.Storable
  | _ => True

namespace CredentialStore

/-- The file of a store is missing or blank, or the store wrote it. -/
inductive Holds (store : CredentialStore) (fs : FileSystem) : List Credential → Prop
  | missing (h : fs.openFile store.path = .missing) : Holds store fs []
  | blank {text : String} (h : fs.openFile store.path = .content text.toUTF8) (hb : Text.Blanks text.toList) :
      Holds store fs []
  | written {records : List Credential} (h : fs.openFile store.path = .content (Credential.fileText records).toUTF8)
      (hs : ∀ record ∈ records, record.Storable) : Holds store fs records

variable {store : CredentialStore} {fs : FileSystem} {records : List Credential}

theorem Holds.storable (h : Holds store fs records) : ∀ record ∈ records, record.Storable := by
  cases h with
  | missing | blank => exact List.forall_mem_nil _
  | written _ hs => exact hs

theorem Holds.openFile_ne (h : Holds store fs records) : fs.openFile store.path ≠ .refused := by
  cases h with
  | missing h | blank h | written h => rw [h]; exact nofun

/-- Writing leaves a file that stands for the written list. -/
theorem Holds.write (h : Holds store fs records) {others : List Credential} (ho : ∀ record ∈ others, record.Storable) :
    ∃ fs', outcome (store.write others) fs = (.ok (), fs') ∧ Holds store fs' others := by
  obtain ⟨fs', hw⟩ := exists_outcome_write h.openFile_ne others
  exact ⟨fs', hw, .written (openFile_of_write hw) ho⟩

/-- Reading gives the list that the file stands for. -/
theorem Holds.read (h : Holds store fs records) :
    ∃ fs', outcome store.read fs = (.ok records, fs') ∧ Holds store fs' records := by
  cases h with
  | missing h =>
    -- a missing file is written first, so that the next read finds the empty list in it
    have hnone : ∀ record ∈ ([] : List Credential), record.Storable := List.forall_mem_nil _
    obtain ⟨fs', hw, hfs⟩ := (Holds.missing h).write hnone
    refine ⟨fs', ?_, hfs⟩
    rw [outcome_read, h]
    simp only [hw]
    rfl
  | blank h hb =>
    refine ⟨fs, ?_, .blank h hb⟩
    rw [outcome_read_of_content h, Credential.ofFileText_blank hb]
    rfl
  | written h hs =>
    refine ⟨fs, ?_, .written h hs⟩
    rw [outcome_read_of_content h, Credential.ofFileText_storable hs]
    rfl

/-! ### One call -/

private theorem set_findIdx? (record existing : Credential) (rest : List Credential)
    (h : existing.sourceId ≠ record.sourceId) :
    StoreCall.after (existing :: rest) (.upsert record) = existing :: StoreCall.after rest (.upsert record) := by
  simp only [StoreCall.after, List.findIdx?_cons, h, decide_false, Bool.false_eq_true, ↓reduceIte]
  cases rest.findIdx? (·.sourceId = record.sourceId) <;> rfl

theorem upsert_eq_after (record : Credential) (records : List Credential) :
    Credential.upsert record records = StoreCall.after records (.upsert record) := by
  induction records with
  | nil => rfl
  | cons existing rest ih =>
    rw [Credential.upsert]
    by_cases h : existing.sourceId = record.sourceId
    · rw [if_pos h]
      simp [StoreCall.after, List.findIdx?_cons, h]
    · rw [if_neg h, set_findIdx? record existing rest h, ih]

theorem cookie?_eq_findSome? (record : Credential) (keys : List String) :
    record.cookie? keys = keys.findSome? fun key => (record.cookies.lookup key).filter (· ≠ "") := by
  induction keys with
  | nil => rfl
  | cons key rest ih =>
    rw [Credential.cookie?, List.findSome?_cons, ih]
    cases record.cookies.lookup key with
    | none => rfl
    | some value =>
      by_cases h : value = "" <;> simp [h, Option.filter]

theorem Holds.upsert (h : Holds store fs records) {record : Credential} (hs : record.Storable) :
    ∃ fs', outcome (store.upsert record) fs = (.ok (), fs') ∧ Holds store fs' (Credential.upsert record records) := by
  obtain ⟨read, hread, hholds⟩ := h.read
  have hall : ∀ existing ∈ Credential.upsert record records, existing.Storable := fun existing he =>
    (Credential.mem_upsert he).elim (fun heq => heq ▸ hs) fun he => h.storable existing he
  obtain ⟨fs', hw, hfs⟩ := hholds.write hall
  refine ⟨fs', ?_, hfs⟩
  rw [outcome_upsert, hread]
  exact hw

theorem Holds.find (h : Holds store fs records) (sourceId : String) :
    ∃ fs', outcome (store.find? sourceId) fs = (.ok (records.find? (·.sourceId = sourceId)), fs') ∧
      Holds store fs' records := by
  obtain ⟨fs', hread, hfs⟩ := h.read
  refine ⟨fs', ?_, hfs⟩
  rw [outcome_find, hread]
  rfl

theorem Holds.cookieFor (h : Holds store fs records) (sourceId url : String) :
    ∃ fs', outcome (store.cookieFor sourceId url) fs = (.ok (StoreCall.cookieIn records sourceId url), fs') ∧
      Holds store fs' records := by
  rw [outcome_cookieFor, StoreCall.cookieIn]
  cases Url.originKeys url with
  | error fault => exact ⟨fs, rfl, h⟩ -- without keys to look for, the file is not even opened
  | ok keys =>
    obtain ⟨fs', hread, hfs⟩ := h.read
    refine ⟨fs', ?_, hfs⟩
    simp only [hread, Except.map, Credential.find?]
    cases records.find? (·.sourceId = sourceId) with
    | none => rfl
    | some record => simp only [Option.bind_some, cookie?_eq_findSome?]

/-- One call answers what the list in memory answers, and leaves a file that stands for the changed list. -/
theorem Holds.answer (h : Holds store fs records) {call : StoreCall} (hc : call.Storable) :
    ∃ fs', outcome (store.answer call) fs = (.ok (call.answerIn records), fs') ∧ Holds store fs' (call.after records) := by
  cases call with
  | saveAll saved =>
    obtain ⟨fs', hw, hfs⟩ := h.write hc
    refine ⟨fs', ?_, hfs⟩
    simp only [CredentialStore.answer, outcome_bind, hw]
    rfl
  | upsert record =>
    obtain ⟨fs', hu, hfs⟩ := h.upsert hc
    refine ⟨fs', ?_, upsert_eq_after record records ▸ hfs⟩
    simp only [CredentialStore.answer, outcome_bind, hu]
    rfl
  | get sourceId =>
    obtain ⟨fs', hf, hfs⟩ := h.find sourceId
    refine ⟨fs', ?_, hfs⟩
    simp only [CredentialStore.answer, outcome_bind, hf]
    rfl
  | loadAll =>
    obtain ⟨fs', hread, hfs⟩ := h.read
    refine ⟨fs', ?_, hfs⟩
    simp only [CredentialStore.answer, outcome_bind, hread]
    rfl
  | cookieFor sourceId url =>
    obtain ⟨fs', hc, hfs⟩ := h.cookieFor sourceId url
    refine ⟨fs', ?_, hfs⟩
    simp only [CredentialStore.answer, outcome_bind, hc]
    rfl

/-! ### Many calls -/

theorem Holds.run (h : Holds store fs records) {calls : List StoreCall} (hc : ∀ call ∈ calls, call.Storable) :
    ∃ fs', outcome (store.run calls) fs = (.ok (StoreCall.answersIn records calls), fs') ∧
      Holds store fs' (StoreCall.afterAll records calls) := by
  induction calls generalizing fs records with
  | nil => exact ⟨fs, rfl, h⟩
  | cons call rest ih =>
    obtain ⟨next, hcall, hnext⟩ := h.answer (hc call List.mem_cons_self)
    obtain ⟨fs', hrest, hfs⟩ := ih hnext fun call hm => hc call (List.mem_cons_of_mem _ hm)
    refine ⟨fs', ?_, hfs⟩
    simp only [CredentialStore.run, outcome_bind, hcall, hrest]
    rfl

/-- A store answers to every sequence of calls what a list in memory answers, and so upserts to different sources can
change places. -/
theorem run_as_list (h : Holds store fs records) :
    (∀ calls : List StoreCall, (∀ call ∈ calls, call.Storable) →
      ∃ fs', outcome (store.run calls) fs = (.ok (StoreCall.answersIn records calls), fs') ∧
        Holds store fs' (StoreCall.afterAll records calls)) ∧
    ∀ a b : Credential, a.Storable → b.Storable → a.sourceId ≠ b.sourceId → ∀ sourceId,
      (outcome (store.run [.upsert a, .upsert b, .get sourceId]) fs).1 =
        (outcome (store.run [.upsert b, .upsert a, .get sourceId]) fs).1 := by
  refine ⟨fun calls hc => h.run hc, ?_⟩
  intro a b ha hb hne sourceId
  have hstorable {first second : Credential} (hf : first.Storable) (hs : second.Storable) :
      ∀ call ∈ [.upsert first, .upsert second, StoreCall.get sourceId], call.Storable := by
    simp [StoreCall.Storable, hf, hs]
  obtain ⟨_, hab, -⟩ := h.run (hstorable ha hb)
  obtain ⟨_, hba, -⟩ := h.run (hstorable hb ha)
  rw [hab, hba]
  have hfind : (Credential.upsert b (Credential.upsert a records)).find? (·.sourceId = sourceId) =
      (Credential.upsert a (Credential.upsert b records)).find? (·.sourceId = sourceId) := by
    simp only [Credential.find?_upsert]
    by_cases ha : a.sourceId = sourceId
    · rw [if_pos ha, if_pos ha, if_neg (ha ▸ Ne.symm hne)]
    · rw [if_neg ha, if_neg ha]
  simp only [StoreCall.answersIn, StoreCall.answerIn, ← upsert_eq_after, hfind]

theorem run_as_list_from_missing :
    Holds ⟨⟨"", ["data", "auth.json"]⟩⟩ ⟨⟨"/", []⟩, []⟩ [] ∧
    (∀ call ∈ [.upsert ⟨"b", [("b.test", "k=\"v\"\n"), ("a.test", "é")], []⟩, .saveAll [⟨"a", [], []⟩], .loadAll],
      StoreCall.Storable call) ∧
    (∃ fs', outcome (run ⟨⟨"", ["data", "auth.json"]⟩⟩
        [.upsert ⟨"b", [("b.test", "k=\"v\"\n"), ("a.test", "é")], []⟩, .saveAll [⟨"a", [], []⟩], .loadAll])
        ⟨⟨"/", []⟩, []⟩ = (.ok [.done, .done, .records [⟨"a", [], []⟩]], fs') ∧
      Holds ⟨⟨"", ["data", "auth.json"]⟩⟩ fs' [⟨"a", [], []⟩]) ∧
    (outcome (run ⟨⟨"", ["data", "auth.json"]⟩⟩ [.upsert ⟨"a", [], []⟩, .upsert ⟨"b", [], []⟩, .get "a"])
        ⟨⟨"/", []⟩, []⟩).1 =
      (outcome (run ⟨⟨"", ["data", "auth.json"]⟩⟩ [.upsert ⟨"b", [], []⟩, .upsert ⟨"a", [], []⟩, .get "a"])
        ⟨⟨"/", []⟩, []⟩).1 := by
  have hmissing : Holds ⟨⟨"", ["data", "auth.json"]⟩⟩ ⟨⟨"/", []⟩, []⟩ [] := .missing rfl
  have hplain {id : String} (h : id ≠ "") : Credential.Storable ⟨id, [], []⟩ := ⟨⟨.nil, .nil⟩, h⟩
  have hquoted : Credential.Storable ⟨"b", [("b.test", "k=\"v\"\n"), ("a.test", "é")], []⟩ :=
    ⟨⟨by decide, .nil⟩, by decide⟩
  have hcalls : ∀ call ∈ [.upsert ⟨"b", [("b.test", "k=\"v\"\n"), ("a.test", "é")], []⟩, .saveAll [⟨"a", [], []⟩],
      .loadAll], StoreCall.Storable call := by
    simp [StoreCall.Storable, hquoted, hplain]
  exact ⟨hmissing, hcalls, (run_as_list hmissing).1 _ hcalls,
    (run_as_list hmissing).2 _ _ (hplain (by decide)) (hplain (by decide)) (by decide) "a"⟩

end CredentialStore

end SiteReader
