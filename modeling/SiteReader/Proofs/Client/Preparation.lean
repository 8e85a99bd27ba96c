import SiteReader.Proofs.Gateway.BrokenStore
import SiteReader.Proofs.Url.Join

/-!
# How preparing directives fails

A directive is prepared in two steps that can fail: its address is completed by that of the source
(`Source.target_eq_error_iff`), and a cookie for the relay of the source is looked up (`Client.relayFields_failsAsStore`).  The
first one fails with a fault whenever one of the two addresses is no URL, the second one when the file of the store holds no
text; all else that can go wrong is a failure of persistence (`Client.prepare_fails_only`).
-/

namespace SiteReader

/-! ### Completed addresses -/

/-- The address of a directive is to be completed by that of the source, and one of the two is no URL. -/
def Source.Strands (source : Source) (url : String) : Prop :=
  source.url ≠ "" ∧ url ≠ "" ∧ Client.isWebAddress url = false ∧ (Url.IsMalformed source.url ∨ Url.IsMalformed url)

theorem Source.target_eq_error_iff {source : Source} {url : String} {fault : Fault} :
    source.target url = .error fault ↔ fault = .malformedUrl ∧ source.Strands url := by
  unfold target
  split
  next h =>
    simp only [Bool.and_eq_true, Bool.not_eq_true', String.isEmpty_eq_false_iff] at h
    rw [Url.join_eq_error_iff_either]
    simp only [Strands, h, ne_eq, not_false_eq_true, true_and]
  next h =>
    refine iff_of_false nofun fun ⟨_, hurl, _, hweb, _⟩ => h ?_
    simp [hurl, hweb]

namespace Client

open Gateway (World)

variable {client : Client} {source : Source} {headers : Headers} {target : String} {store : CredentialStore}
  {files : FileSystem}

/-! ### Cookies for relays -/

/-- The cookie for a relay is looked up in a store: the source is read through one, and nobody asks for another cookie. -/
structure LooksUp (client : Client) (source : Source) (headers : Headers) (store : CredentialStore) : Prop where
  relay_ne : (source.relay?.getD "").isEmpty = false
  store_eq : client.gateway.store? = some store
  names_eq : headers.names "cookie" = false

/-- A cookie is looked up in a file that holds no text. -/
def Founders (client : Client) (source : Source) (headers : Headers) (target : String) (files : FileSystem) : Prop :=
  ∃ store, client.LooksUp source headers store ∧ (Url.originKeys target).isOk = true ∧ ¬ store.HoldsText files

theorem LooksUp.outcome_relayFields (h : client.LooksUp source headers store) (target : String) (files : FileSystem) :
    (outcome (client.relayFields source headers target) files).1 =
      (outcome (store.cookieFor source.id target) files).1.map cookieField := by
  rw [relayFields, if_neg (Bool.eq_false_iff.mp h.relay_ne), outcome_cookieFields, h.store_eq]
  simp only [h.names_eq, Bool.false_eq_true, ↓reduceIte]

theorem relayFields_of_not_looksUp (h : ∀ store, ¬ client.LooksUp source headers store) (target : String)
    (files : FileSystem) : (outcome (client.relayFields source headers target) files).1 = .ok [] := by
  unfold relayFields
  split
  next => rfl
  next hrelay =>
    rw [outcome_cookieFields]
    split
    next => rfl
    next store hstore =>
      split
      next => rfl
      next hnames => exact absurd ⟨Bool.eq_false_iff.mpr hrelay, hstore, Bool.eq_false_iff.mpr hnames⟩ (h store)

theorem Founders.outcome_relayFields (h : client.Founders source headers target files) :
    (outcome (client.relayFields source headers target) files).1 = .error (.fault .undecodable) := by
  obtain ⟨store, hlooks, hkeys, hno⟩ := h
  have hread : (outcome store.read files).1 = .error (.fault .undecodable) := by
    rw [CredentialStore.outcome_read_undecodable (by simpa using hno)]
  rw [hlooks.outcome_relayFields, CredentialStore.outcome_cookieFor]
  cases hk : Url.originKeys target with
  | error fault =>
    rw [hk] at hkeys
    cases hkeys
  | ok keys =>
    simp only [hread]
    rfl

/-- The cookie for a relay is found or the store fails as one, unless its file holds no text. -/
theorem relayFields_failsAsStore (h : ¬ client.Founders source headers target files) :
    FailsAsStore (outcome (client.relayFields source headers target) files).1 := by
  by_cases hlooks : ∃ store, client.LooksUp source headers store
  · obtain ⟨store, hlooks⟩ := hlooks
    rw [hlooks.outcome_relayFields]
    by_cases htext : store.HoldsText files
    · exact failsAsStore_map (CredentialStore.cookieFor_failsAsStore (.inr htext) source.id target)
    · -- the file is not read for a target without an origin
      rw [CredentialStore.outcome_cookieFor]
      cases hk : Url.originKeys target with
      | error fault => exact nofun
      | ok keys => exact absurd ⟨store, hlooks, by rw [hk]; rfl, htext⟩ h
  · rw [relayFields_of_not_looksUp (not_exists.mp hlooks)]
    exact nofun

/-! ### Directives -/

variable {τ : Type}

/-- What a text is prepared as for a source: its address is completed, and then a cookie looked up. -/
theorem outcome_prepare (client : Client) (source : Source) (raw : String) (world : World τ) :
    (outcome (client.prepare (some source) raw) world).1 = match source.target (Directive.read raw).url with
      | .error fault => .error (.fault fault)
      | .ok target => (outcome (client.relayFields source (source.merged (Directive.read raw)) target) world.files).1.map
          fun cookies => { Directive.read raw with
            url := Url.throughRelay target source.relay?, headers := cookies ++ source.merged (Directive.read raw) } := by
  rw [prepare, outcome_bind, Gateway.outcome_ofNoted, Directive.outcome_parse]
  simp only [mapError_ok, outcome_resolve]
  cases source.target (Directive.read raw).url <;> rfl

theorem prepare_of_strands {raw : String} (h : source.Strands (Directive.read raw).url) (client : Client)
    (world : World τ) : (outcome (client.prepare (some source) raw) world).1 = .error (.fault .malformedUrl) := by
  rw [outcome_prepare, Source.target_eq_error_iff.mpr ⟨rfl, h⟩]

theorem prepare_of_founders {raw : String} {world : World τ} (htarget : source.target (Directive.read raw).url = .ok target)
    (h : client.Founders source (source.merged (Directive.read raw)) target world.files) :
    (outcome (client.prepare (some source) raw) world).1 = .error (.fault .undecodable) := by
  rw [outcome_prepare, htarget]
  exact congrArg (Except.map _) h.outcome_relayFields

theorem prepare_failsAsStore {raw : String} {world : World τ} (htarget : source.target (Directive.read raw).url = .ok target)
    (h : ¬ client.Founders source (source.merged (Directive.read raw)) target world.files) :
    FailsAsStore (outcome (client.prepare (some source) raw) world).1 := by
  rw [outcome_prepare, htarget]
  exact failsAsStore_map (relayFields_failsAsStore h)

/-- Without a source a text is prepared as it is read.  With one, preparing it ends with a directive or fails as a store does,
but for two cases: the address cannot be completed, or a cookie is looked up in a file that holds no text. -/
theorem prepare_fails_only (client : Client) (raw : String) (world : World τ) :
    (outcome (client.prepare none raw) world).1 = .ok (Directive.read raw) ∧
    ∀ source : Source,
      let asked := Directive.read raw
      let prepared := (outcome (client.prepare (some source) raw) world).1
      (prepared = .error (.fault .malformedUrl) ↔ source.Strands asked.url) ∧
      (prepared = .error (.fault .undecodable) ↔ ∃ target, source.target asked.url = .ok target ∧
        client.Founders source (source.merged asked) target world.files) ∧
      ∀ failure, prepared = .error failure →
        failure = .fault .malformedUrl ∨ failure = .fault .undecodable ∨ failure.kind? = some .persistenceError := by
  constructor
  · rw [prepare, outcome_bind, Gateway.outcome_ofNoted, Directive.outcome_parse]
    rfl
  · intro source asked prepared
    cases htarget : source.target asked.url with
    | error fault =>
      obtain ⟨-, hstrands⟩ := Source.target_eq_error_iff.mp htarget
      have hfault : prepared = .error (.fault .malformedUrl) := prepare_of_strands hstrands client world
      refine ⟨iff_of_true hfault hstrands, iff_of_false ?_ ?_, fun failure hf => ?_⟩
      · exact fun h => by cases hfault.symm.trans h
      · exact fun ⟨_, h, _⟩ => nomatch h
      · exact .inl (Except.error.inj (hf.symm.trans hfault))
    | ok target =>
      have hcompleted : ¬ source.Strands asked.url := fun h => by
        cases htarget.symm.trans (Source.target_eq_error_iff.mpr ⟨rfl, h⟩)
      by_cases hfounders : client.Founders source (source.merged asked) target world.files
      · have hfault : prepared = .error (.fault .undecodable) := prepare_of_founders htarget hfounders
        refine ⟨iff_of_false ?_ hcompleted, iff_of_true hfault ⟨target, rfl, hfounders⟩, fun failure hf => ?_⟩
        · exact fun h => by cases hfault.symm.trans h
        · exact .inr (.inl (Except.error.inj (hf.symm.trans hfault)))
      · have hstore : FailsAsStore prepared := prepare_failsAsStore htarget hfounders
        refine ⟨iff_of_false ?_ hcompleted, iff_of_false ?_ ?_, fun failure hf => .inr (.inr (hstore failure hf))⟩
        · exact fun h => nomatch hstore _ h
        · exact fun h => nomatch hstore _ h
        · rintro ⟨_, h, hf⟩
          obtain rfl := Except.ok.inj h
          exact hfounders hf

/-- A source whose address is cut off makes preparing fail in a way that callers are not promised, and so does a file that
holds no text. -/
theorem prepare_strands :
    let gateway (store? : Option CredentialStore) : Gateway := ⟨.standard, fun _ => .ok [], store?⟩
    let world (files : FileSystem) : World Rat :=
      { World.start Rat ⟨"/", []⟩ ⟨200, [], [], .whole 0, none⟩ with files }
    let store : CredentialStore := ⟨⟨"/", ["auth.json"]⟩⟩
    (outcome ((Client.mk (gateway none) none).prepare
        (some (Source.ofFields [("id", .text "s"), ("url", .text "http://[")])) "/a") (world ⟨⟨"/", []⟩, []⟩)).1 =
      .error (.fault .malformedUrl) ∧
    (outcome ((Client.mk (gateway (some store)) none).prepare
        (some (Source.ofFields [("id", .text "s"), ("proxyBase", .text "http://r.test/")])) "http://a.test/")
        (world ⟨⟨"/", []⟩, [(["auth.json"], .file ⟨#[0xff]⟩)]⟩)).1 = .error (.fault .undecodable) ∧
    (Failure.fault .malformedUrl).kind? = none ∧ (Failure.fault .undecodable).kind? = none := by
  refine ⟨?_, ?_, rfl, rfl⟩ <;> decide +kernel

end Client

end SiteReader
