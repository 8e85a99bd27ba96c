import SiteReader.Proofs.Client.Cookie
import SiteReader.Proofs.Credential.Trouble

/-!
# Fetches with a broken store

A store that cannot be used fails as a store, whatever its file holds and whatever the system refuses, unless the file is opened
and holds no text: then reading it fails with a fault, and so does all that reads it (`CredentialStore.failures_typed`).  A fetch
that needs a cookie of a broken store sends nothing and fails in the same way (`Gateway.fetch_broken_store`).
-/

namespace SiteReader

/-- A result is a value or a failure of persistence. -/
def FailsAsStore {α : Type} (result : Except Failure α) : Prop :=
  ∀ failure, result = .error failure → failure.kind? = some .persistenceError

theorem failsAsStore_map {α β : Type} {f : α → β} {result : Except Failure α} (h : FailsAsStore result) :
    FailsAsStore (result.map f) :=
  fun failure hf => h failure (eq_error_of_map hf)

namespace CredentialStore

variable {store : CredentialStore} {trouble : Trouble} {fs : FileSystem}

/-! ### Stores that fail as stores -/

theorem write_failsAsStore (store : CredentialStore) (records : List Credential) (hindrance : FileSystem.Hindrance)
    (fs : FileSystem) : FailsAsStore (outcome (store.write records hindrance) fs).1 := by
  intro failure h
  obtain ⟨cause, rfl⟩ := writeError h
  rfl

/-- Where the file is refused or holds a text, reading fails as a store does. -/
theorem read_failsAsStore (h : trouble.opening = true ∨ store.HoldsText fs) :
    FailsAsStore (outcome (store.read trouble) fs).1 := by
  intro failure hf
  rcases readError_cases_troubled hf with ⟨-, cause, rfl⟩ | ⟨hno, -⟩
  · rfl
  · exact absurd h hno

theorem upsert_failsAsStore (h : trouble.opening = true ∨ store.HoldsText fs) (record : Credential) :
    FailsAsStore (outcome (store.upsert record trouble) fs).1 := by
  intro failure hf
  rcases upsert_failed_cases hf with ⟨hread, -⟩ | ⟨records, read, -, hwrite, -⟩
  · exact read_failsAsStore h failure hread
  · exact store.write_failsAsStore records trouble.writing read failure hwrite

theorem cookieFor_failsAsStore (h : trouble.opening = true ∨ store.HoldsText fs) (sourceId url : String) :
    FailsAsStore (outcome (store.cookieFor sourceId url trouble) fs).1 := by
  rw [outcome_cookieFor]
  cases Url.originKeys url with
  | error fault => exact fun failure hf => nomatch hf
  | ok keys => exact failsAsStore_map (read_failsAsStore h)

/-! ### Files that hold no text -/

theorem outcome_read_undecodable (h : ¬ (trouble.opening = true ∨ store.HoldsText fs)) :
    outcome (store.read trouble) fs = (.error (.fault .undecodable), fs) := by
  rw [not_or, Bool.not_eq_true] at h
  obtain ⟨hopening, htext⟩ := h
  simp only [HoldsText, not_forall, Bool.not_eq_true, Option.isSome_eq_false_iff, Option.isNone_iff_eq_none,
    exists_prop] at htext
  obtain ⟨bytes, hopen, hnone⟩ := htext
  rw [outcome_read_troubled]
  simp only [hopening, Bool.false_eq_true, ↓reduceIte, hopen, hnone]

end CredentialStore

namespace Gateway

variable {τ : Type} [Clock τ] {gateway : Gateway} {store : CredentialStore} {sourceId : String}

/-! ### Fetches -/

/-- What callers are given who have every failure of some kind reported. -/
def reporting (x : Session τ Response) : Session τ Response :=
  tryCatch x fun failure => match failure.kind? with
    | some _ => pure failure.report.response
    | none => throw failure

theorem handle_eq_reporting (gateway : Gateway) (payload : Tree) :
    (gateway.handle payload : Session τ Response) = reporting (do
      let (directive, timeout?) ← Session.ofExcept (readPayload payload)
      gateway.fetch directive (timeout?.map .whole) none) := rfl

omit [Clock τ] in
theorem outcome_reporting {x : Session τ Response} {world : World τ} {failure : Failure}
    (h : (outcome x world).1 = .error failure) :
    (outcome (reporting x) world).1 = match failure.kind? with
      | some _ => .ok failure.report.response
      | none => .error failure := by
  have hx : outcome x world = (.error failure, (outcome x world).2) := Prod.ext h rfl
  rw [reporting, outcome_tryCatch, hx]
  cases hk : failure.kind? with
  | some kind => simp only [hk, outcome_pure]
  | none => simp only [hk, outcome_throw]

/-- A fetch that looks for the cookie of its first request in a broken store sends nothing, and fails as the store does if it
goes ahead. -/
theorem fetch_broken_store (hstore : gateway.store? = some store) (hid : sourceId ≠ "") {directive : Directive}
    (hplain : (gateway.plainHeaders directive.headers).names "cookie" = false) {world : World τ} {failure : Failure}
    (hread : (outcome store.read world.files).1 = .error failure) (timeout? : Option Duration) :
    (outcome (gateway.fetch directive timeout? (some sourceId)) world).2.requests = world.requests ∧
      (GoesAhead gateway directive.url timeout? world →
        (outcome (gateway.fetch directive timeout? (some sourceId)) world).1 = .error failure) := by
  have hopens := opens_fetch gateway directive timeout? (some sourceId) world
  have hunread (ha : GoesAhead gateway directive.url timeout? world) :
      (outcome (gateway.requestHeaders directive.headers directive.url (some sourceId)) world.files).1 = .error failure :=
    requestHeaders_unreadable hstore hid hplain hread (originKeys_of_approved ha.1)
  refine ⟨hopens.unsent ?_, fun ha => hopens.fails failure (hunread ha) ha⟩
  refine Option.eq_none_iff_forall_ne_some.mpr fun request hr => ?_
  obtain ⟨ha, -, hfields⟩ := hopens.first request hr
  cases (hunread ha).symm.trans hfields

end Gateway

namespace CredentialStore

open Gateway (GoesAhead World reporting)

/-- Where the file of a store is refused or holds a text, every use of the store ends well or fails as a store does.  Where it
is opened and holds no text, every use that reads it fails with a fault.  A fetch that looks for a cookie in a store that
cannot be read sends nothing; if it goes ahead, then it fails as the store does, which is reported to callers who have their
failures reported, unless the file of the store holds no text. -/
theorem failures_typed (store : CredentialStore) (trouble : Trouble) (fs : FileSystem) :
    (trouble.opening = true ∨ store.HoldsText fs →
      FailsAsStore (outcome (store.read trouble) fs).1 ∧
      (∀ sourceId, FailsAsStore (outcome (store.find? sourceId trouble) fs).1) ∧
      (∀ sourceId url, FailsAsStore (outcome (store.cookieFor sourceId url trouble) fs).1) ∧
      ∀ record, FailsAsStore (outcome (store.upsert record trouble) fs).1) ∧
    (¬ (trouble.opening = true ∨ store.HoldsText fs) →
      (outcome (store.read trouble) fs).1 = .error (.fault .undecodable) ∧
      (∀ sourceId, (outcome (store.find? sourceId trouble) fs).1 = .error (.fault .undecodable)) ∧
      (∀ sourceId url, (outcome (store.cookieFor sourceId url trouble) fs).1 =
        if (Url.originKeys url).isOk then .error (.fault .undecodable) else .ok "") ∧
      ∀ record, (outcome (store.upsert record trouble) fs).1 = .error (.fault .undecodable)) ∧
    ∀ {τ : Type} [Clock τ] (gateway : Gateway) (directive : Directive) (timeout? : Option Duration) (sourceId : String)
      (world : World τ) (failure : Failure), gateway.store? = some store → sourceId ≠ "" →
      (gateway.plainHeaders directive.headers).names "cookie" = false →
      (outcome store.read world.files).1 = .error failure →
      (outcome (gateway.fetch directive timeout? (some sourceId)) world).2.requests = world.requests ∧
      (GoesAhead gateway directive.url timeout? world →
        (outcome (gateway.fetch directive timeout? (some sourceId)) world).1 = .error failure ∧
        (store.HoldsText world.files → failure.kind? = some .persistenceError ∧
          (outcome (reporting (gateway.fetch directive timeout? (some sourceId))) world).1 =
            .ok failure.report.response) ∧
        (¬ store.HoldsText world.files →
          (outcome (reporting (gateway.fetch directive timeout? (some sourceId))) world).1 =
            .error (.fault .undecodable))) := by
  refine ⟨fun h => ?_, fun h => ?_, fun gateway directive timeout? sourceId world failure hstore hid hplain hread => ?_⟩
  · refine ⟨read_failsAsStore h, fun sourceId => ?_, cookieFor_failsAsStore h, upsert_failsAsStore h⟩
    rw [outcome_find]
    exact failsAsStore_map (read_failsAsStore h)
  · have hread := outcome_read_undecodable h
    refine ⟨by rw [hread], fun sourceId => ?_, fun sourceId url => ?_, fun record => ?_⟩
    · rw [outcome_find, hread]
      rfl
    · rw [outcome_cookieFor, hread]
      cases Url.originKeys url <;> rfl
    · rw [outcome_upsert_troubled, hread]
  · obtain ⟨hunsent, hfails⟩ := Gateway.fetch_broken_store hstore hid hplain hread timeout?
    refine ⟨hunsent, fun ha => ?_⟩
    have hreported := Gateway.outcome_reporting (hfails ha)
    refine ⟨hfails ha, fun htext => ?_, fun hno => ?_⟩
    · have hkind := read_failsAsStore (.inr htext) failure hread
      rw [hkind] at hreported
      exact ⟨hkind, hreported⟩
    · rcases readError_cases hread with ⟨htext, -⟩ | ⟨-, rfl⟩
      · exact absurd htext hno
      · exact hreported

/-- A file that is cut off, one that is no text, and a fetch for which a cookie is looked up in the one that is cut off. -/
theorem failures_typed_cut_off :
    let store : CredentialStore := ⟨⟨"/", ["auth.json"]⟩⟩
    let gateway : Gateway := ⟨.standard, fun _ => .ok [], some store⟩
    let files (bytes : ByteArray) : FileSystem := ⟨⟨"/", []⟩, [(["auth.json"], .file bytes)]⟩
    let world : World Rat := { World.start Rat ⟨"/", []⟩ ⟨200, [], [], .whole 0, none⟩ with files := files "[".toUTF8 }
    let directive : Directive := ⟨"http://a.test/", "GET", [], none⟩
    FailsAsStore (outcome (store.upsert ⟨"s", [], []⟩) (files "[".toUTF8)).1 ∧
    (outcome (store.upsert ⟨"s", [], []⟩) (files ⟨#[0xFF]⟩)).1 = .error (.fault .undecodable) ∧
    (outcome (gateway.fetch directive none (some "s")) world).2.requests = [] ∧
    (outcome (reporting (gateway.fetch directive none (some "s"))) world).1 =
      .ok (Failure.store (.notJson "/auth.json")).report.response := by
  intro store gateway files world directive
  have hopen (bytes : ByteArray) : (files bytes).openFile store.path = .content bytes := rfl
  have htext : store.HoldsText (files "[".toUTF8) := by
    intro bytes h
    obtain rfl : "[".toUTF8 = bytes := FileSystem.Opened.content.inj h
    rw [fromUTF8?_toUTF8]
    rfl
  have hbinary : ¬ (({} : Trouble).opening = true ∨ store.HoldsText (files ⟨#[0xFF]⟩)) := by
    rintro (hopening | htext)
    · cases hopening
    · have hsome := htext ⟨#[0xFF]⟩ (hopen _)
      have hnone : String.fromUTF8? ⟨#[0xFF]⟩ = none := by decide +kernel
      rw [hnone] at hsome
      cases hsome
  have hcut : (outcome store.read world.files).1 = .error (.store (.notJson "/auth.json")) := by
    have hrecords : Credential.ofFileText store.path.text "[" = .error (.notJson "/auth.json") := by decide +kernel
    rw [outcome_read_of_content (hopen "[".toUTF8), hrecords]
    rfl
  have hahead : GoesAhead gateway directive.url none world := ⟨by decide +kernel, by decide +kernel⟩
  have hfetch := (failures_typed store {} world.files).2.2 gateway directive none "s" world _ rfl (by decide)
    (by decide +kernel) hcut
  exact ⟨((failures_typed store {} (files "[".toUTF8)).1 (.inr htext)).2.2.2 _,
    ((failures_typed store {} (files ⟨#[0xFF]⟩)).2.1 hbinary).2.2.2 _, hfetch.1, ((hfetch.2 hahead).2.1 htext).2⟩

/-- A file of one byte that is no text makes each use of a store fail in a way that is none of a store. -/
theorem failures_typed_undecodable :
    ¬ ∀ (store : CredentialStore) (bytes : ByteArray) (sourceId url : String) (record : Credential),
      let fs : FileSystem := ⟨⟨"", []⟩, [(store.path.parts, .file bytes)]⟩
      FailsAsStore (outcome store.read fs).1 ∧ FailsAsStore (outcome (store.find? sourceId) fs).1 ∧
      FailsAsStore (outcome (store.cookieFor sourceId url) fs).1 ∧ FailsAsStore (outcome (store.upsert record) fs).1 := by
  intro h
  let store : CredentialStore := ⟨⟨"", ["auth.json"]⟩⟩
  let fs : FileSystem := ⟨⟨"", []⟩, [(["auth.json"], .file ⟨#[0xFF]⟩)]⟩
  have hread : (outcome store.read fs).1 = .error (.fault .undecodable) := by
    have hopen : fs.openFile store.path = .content ⟨#[0xFF]⟩ := rfl
    have hnone : String.fromUTF8? ⟨#[0xFF]⟩ = none := by decide +kernel
    rw [outcome_read, hopen]
    simp only [hnone]
  have hkind := (h store ⟨#[0xFF]⟩ "s" "http://a.test/" ⟨"s", [], []⟩).1 _ hread
  cases hkind

end CredentialStore

end SiteReader
