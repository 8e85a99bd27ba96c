import SiteReader.Proofs.Credential.Store
import SiteReader.Proofs.Gateway.Exchange
import SiteReader.Proofs.Header

/-!
# Secrets stay with the authority they were meant for

A request has a `Cookie` or an `Authorization` field only if the directive gave that field and no request so far has left
the authority of the first one, or if it is the cookie that the store has for the URL of the request itself
(`fetch_secrets_confined`).  The fields that are sent by default are none of these (`defaultHeaders_not_secret`).
-/

namespace SiteReader.Gateway

/-! ### The fields of one request -/

theorem defaultHeaders_not_secret {name value : String} (h : (name, value) ∈ Config.standard.defaultHeaders) :
    lowered name ∉ secretHeaders := by
  have hall : ∀ field ∈ Config.standard.defaultHeaders, lowered field.1 ∉ secretHeaders := by decide
  exact hall (name, value) h

/-- The store of a gateway has a cookie for a URL. -/
def HasCookie (gateway : Gateway) (sourceId? : Option String) (files : FileSystem) (url value : String) : Prop :=
  ∃ sourceId store, sourceId? = some sourceId ∧ sourceId ≠ "" ∧ gateway.store? = some store ∧ value ≠ "" ∧
    (outcome (store.cookieFor sourceId url) files).1 = .ok value

/-- The store of a gateway has the same cookies in two states of the files. -/
def SameCookies (gateway : Gateway) (files files' : FileSystem) : Prop :=
  ∀ store, gateway.store? = some store → ∀ sourceId url,
    (outcome (store.cookieFor sourceId url) files').1 = (outcome (store.cookieFor sourceId url) files).1

theorem SameCookies.hasCookie {gateway : Gateway} {files files' : FileSystem} (h : gateway.SameCookies files files')
    {sourceId? : Option String} {url value : String} (hc : gateway.HasCookie sourceId? files' url value) :
    gateway.HasCookie sourceId? files url value := by
  obtain ⟨sourceId, store, hid, hne, hs, hv, hc⟩ := hc
  exact ⟨sourceId, store, hid, hne, hs, hv, h store hs sourceId url ▸ hc⟩

variable {gateway : Gateway} {sourceId? : Option String}

/-- The fields of a request before a cookie of the store is added. -/
def plainHeaders (gateway : Gateway) (asked : Headers) : Headers :=
  gateway.config.defaultHeaders.distinct.merge (asked.only gateway.config.requestHeaders)

theorem namedOnce_plainHeaders (gateway : Gateway) (asked : Headers) : (gateway.plainHeaders asked).NamedOnce :=
  (Headers.namedOnce_distinct _).merge _

theorem first?_plainHeaders (gateway : Gateway) (asked : Headers) (name : String) :
    (gateway.plainHeaders asked).first? name =
      ((asked.only gateway.config.requestHeaders).last? name).or (gateway.config.defaultHeaders.last? name) := by
  rw [plainHeaders, Headers.first?_merge, Headers.first?_distinct]

theorem mem_of_mem_plainHeaders (hd : gateway.config.defaultHeaders = Config.standard.defaultHeaders) {asked : Headers}
    {name value : String} (hm : (name, value) ∈ gateway.plainHeaders asked) (hsecret : lowered name ∈ secretHeaders) :
    (name, value) ∈ asked := by
  rcases Headers.mem_of_mem_merge hm with hm | hm
  · rw [hd] at hm
    exact absurd hsecret (defaultHeaders_not_secret (Headers.mem_of_mem_distinct hm))
  · exact Headers.mem_of_mem_only hm

/-- A cookie of the store is added where there is none. -/
def withCookie (headers : Headers) (cookie : String) : Headers :=
  if cookie.isEmpty then headers else headers.set "Cookie" cookie

theorem outcome_requestHeaders (gateway : Gateway) (asked : Headers) (url : String) (sourceId? : Option String)
    (files : FileSystem) :
    outcome (gateway.requestHeaders asked url sourceId?) files = match sourceId?, gateway.store? with
      | some sourceId, some store =>
        if sourceId.isEmpty || (gateway.plainHeaders asked).names "cookie" then (.ok (gateway.plainHeaders asked), files)
        else ((outcome (store.cookieFor sourceId url) files).1.map (withCookie (gateway.plainHeaders asked)),
          (outcome (store.cookieFor sourceId url) files).2)
      | _, _ => (.ok (gateway.plainHeaders asked), files) := by
  have hplain : gateway.config.defaultHeaders.distinct.merge (asked.only gateway.config.requestHeaders) =
      gateway.plainHeaders asked := rfl
  simp only [requestHeaders, hplain]
  cases sourceId? with
  | none => rfl
  | some sourceId =>
    cases gateway.store? with
    | none => rfl
    | some store =>
      simp only
      split
      next => rfl
      next =>
        rw [outcome_bind]
        rcases outcome (store.cookieFor sourceId url) files with ⟨failure | cookie, read⟩ <;> rfl

theorem requestHeaders_cases {asked headers : Headers} {url : String} {files files' : FileSystem}
    (h : outcome (gateway.requestHeaders asked url sourceId?) files = (.ok headers, files')) :
    (headers = gateway.plainHeaders asked ∧ files' = files) ∨
      ∃ sourceId store cookie, sourceId? = some sourceId ∧ sourceId ≠ "" ∧ gateway.store? = some store ∧
        (gateway.plainHeaders asked).names "cookie" = false ∧
        outcome (store.cookieFor sourceId url) files = (.ok cookie, files') ∧
        (headers = gateway.plainHeaders asked ∨
          cookie ≠ "" ∧ headers = (gateway.plainHeaders asked).set "Cookie" cookie) := by
  rw [outcome_requestHeaders] at h
  split at h
  next sourceId store hs =>
    split at h
    next =>
      cases h
      exact .inl ⟨rfl, rfl⟩
    next hasked =>
      obtain ⟨hid, hnames⟩ := Bool.or_eq_false_iff.mp (Bool.eq_false_iff.mpr hasked)
      obtain ⟨hh, rfl⟩ := Prod.mk.inj h
      cases hc : (outcome (store.cookieFor sourceId url) files).1 with
      | error failure => simp [hc, Except.map] at hh
      | ok cookie =>
        simp only [hc, Except.map, Except.ok.injEq] at hh
        subst hh
        refine .inr ⟨sourceId, store, cookie, rfl, by simpa using hid, hs, hnames, Prod.ext hc rfl, ?_⟩
        unfold withCookie
        split
        next => exact .inl rfl
        next hne => exact .inr ⟨by simpa using hne, rfl⟩
  next =>
    cases h
    exact .inl ⟨rfl, rfl⟩

/-- A secret that goes into a request is one that was asked for or the cookie of the store. -/
theorem secret_of_requestHeaders (hd : gateway.config.defaultHeaders = Config.standard.defaultHeaders)
    {asked headers : Headers} {url : String} {files files' : FileSystem}
    (h : outcome (gateway.requestHeaders asked url sourceId?) files = (.ok headers, files')) {name value : String}
    (hm : (name, value) ∈ headers) (hsecret : lowered name ∈ secretHeaders) :
    (name, value) ∈ asked ∨ lowered name = "cookie" ∧ gateway.HasCookie sourceId? files url value := by
  rcases requestHeaders_cases h with
    ⟨rfl, -⟩ | ⟨sourceId, store, cookie, hid, hne, hs, -, hc, rfl | ⟨hcookie, rfl⟩⟩
  · exact .inl (mem_of_mem_plainHeaders hd hm hsecret)
  · exact .inl (mem_of_mem_plainHeaders hd hm hsecret)
  · rcases Headers.mem_of_mem_set hm with heq | hm
    · obtain ⟨rfl, rfl⟩ := Prod.mk.inj heq
      exact .inr ⟨by decide, sourceId, store, hid, hne, hs, hcookie, by rw [hc]⟩
    · exact .inl (mem_of_mem_plainHeaders hd hm hsecret)

theorem sameCookies_of_requestHeaders {asked headers : Headers} {url : String} {files files' : FileSystem}
    (h : outcome (gateway.requestHeaders asked url sourceId?) files = (.ok headers, files')) :
    gateway.SameCookies files files' := by
  rcases requestHeaders_cases h with ⟨-, rfl⟩ | ⟨sourceId, store, cookie, -, -, hs, -, hc, -⟩
  · exact fun _ _ _ _ => rfl
  · intro store' hs' sourceId' url'
    obtain rfl := Option.some.inj (hs.symm.trans hs')
    exact CredentialStore.outcome_cookieFor_again hc sourceId' url'

/-! ### A chain of requests -/

variable {τ : Type} [Clock τ]

/-- The directive gave a field, and no request up to the `k`-th has left the authority of the first one. -/
def Owned (directive : Directive) (sent : List (Request τ)) (k : Nat) (field : String × String) : Prop :=
  field ∈ directive.headers ∧
    ∃ authority, ∀ request ∈ sent.take (k + 1), authorityOf request.url = .ok authority

variable {origin : List Char} {deadline : τ} {limit : Duration} {left : Nat} {hop : Hop} {world world' : World τ}
  {sent : List (Request τ)} {result : Except Failure Response}

/-- A secret of a request is one of the first hop, with no request so far away from the origin, or the cookie of the store
for the request itself. -/
theorem Course.secrets (hd : gateway.config.defaultHeaders = Config.standard.defaultHeaders)
    (course : Course gateway origin deadline limit sourceId? left hop world sent result world') {k : Nat}
    {request : Request τ} (hk : sent[k]? = some request) {name value : String} (hm : (name, value) ∈ request.headers)
    (hsecret : lowered name ∈ secretHeaders) :
    ((name, value) ∈ hop.headers ∧ ∀ r ∈ sent.take (k + 1), authorityOf r.url = .ok origin) ∨
      lowered name = "cookie" ∧ gateway.HasCookie sourceId? world.files request.url value := by
  refine course.request_induction (P := fun hop world sent k request => (name, value) ∈ request.headers →
    ((name, value) ∈ hop.headers ∧ ∀ r ∈ sent.take (k + 1), authorityOf r.url = .ok origin) ∨
      lowered name = "cookie" ∧ gateway.HasCookie sourceId? world.files request.url value) ?_ ?_ hk hm
  · intro hop world confined headers files sends closed rest hm
    rcases secret_of_requestHeaders hd sends.headers_eq hm hsecret with hm | hc
    · rcases Hop.confined_cases sends.confined_eq with ⟨ha, rfl⟩ | ⟨_, -, -, rfl⟩
      · exact .inl ⟨hm, by simpa [Hop.request] using ha⟩
      · exact absurd hm (Headers.not_mem_without hsecret)
    · exact .inr hc
  · intro hop world confined headers files location url sends hl hj hc now rest k request ih hm
    rcases ih hm with ⟨hm, hrest⟩ | ⟨hname, hcookie⟩
    · rw [Hop.next_headers] at hm
      -- the next hop starts with the fields that this one kept, and away from the origin it kept no secret
      rcases Hop.confined_cases sends.confined_eq with ⟨ha, rfl⟩ | ⟨_, -, -, rfl⟩
      · refine .inl ⟨hm, ?_⟩
        rw [List.take_succ_cons]
        intro r hr
        rcases List.mem_cons.mp hr with rfl | hr
        · exact ha
        · exact hrest r hr
      · exact absurd hm (Headers.not_mem_without hsecret)
    · -- the look-up for this hop may have created the store, but not changed it
      exact .inr ⟨hname, (sameCookies_of_requestHeaders sends.headers_eq).hasCookie hcookie⟩

/-- The fields of a fetch's requests that hold secrets, as far as the directive, the store and the authorities allow
them. -/
def Confined (gateway : Gateway) (directive : Directive) (sourceId? : Option String) (files : FileSystem)
    (sent : List (Request τ)) : Prop :=
  ∀ k request, sent[k]? = some request → ∀ name value, (name, value) ∈ request.headers →
    (lowered name = "authorization" → Owned directive sent k (name, value)) ∧
    (lowered name = "cookie" →
      Owned directive sent k (name, value) ∨ gateway.HasCookie sourceId? files request.url value)

theorem fetch_confined (hd : gateway.config.defaultHeaders = Config.standard.defaultHeaders) (directive : Directive)
    (timeout? : Option Duration) (sourceId? : Option String) (world : World τ) :
    ∃ sent, (outcome (gateway.fetch directive timeout? sourceId?) world).2.requests = world.requests ++ sent ∧
      Confined gateway directive sourceId? world.files sent := by
  rcases fetch_cases gateway directive timeout? sourceId? world with
    ⟨failure, -, hf⟩ | ⟨span, origin, sent, result, world', -, -, -, course, hf⟩
  · exact ⟨[], by simp [hf], by simp [Confined]⟩
  · refine ⟨sent, by rw [hf, requests_logged, course.requests_eq], ?_⟩
    intro k request hk name value hm
    constructor
    · intro hname
      rcases course.secrets hd hk hm (by simp [hname, secretHeaders]) with ⟨hm, ha⟩ | ⟨hcookie, -⟩
      · exact ⟨hm, origin, ha⟩
      · exact absurd (hname.symm.trans hcookie) (by decide)
    · intro hname
      rcases course.secrets hd hk hm (by simp [hname, secretHeaders]) with ⟨hm, ha⟩ | ⟨-, hcookie⟩
      · exact .inl ⟨hm, origin, ha⟩
      · exact .inr hcookie

theorem outcome_handle (gateway : Gateway) (payload : Tree) (world : World τ) :
    (outcome (gateway.handle payload) world).2 = match readPayload payload with
      | .error _ => world
      | .ok (directive, timeout?) => (outcome (gateway.fetch directive (timeout?.map .whole) none) world).2 := by
  rw [handle, outcome_tryCatch, outcome_bind, outcome_ofExcept]
  cases readPayload payload with
  | error failure =>
    simp only
    cases failure.kind? <;> rfl
  | ok asked =>
    simp only
    rcases outcome (gateway.fetch asked.1 (asked.2.map .whole) none) world with ⟨failure | response, world'⟩
    · simp only
      cases failure.kind? <;> rfl
    · rfl

theorem not_hasCookie_none {gateway : Gateway} {files : FileSystem} {url value : String} :
    ¬ gateway.HasCookie none files url value := by
  rintro ⟨sourceId, store, hid, -⟩
  cases hid

/-- With the usual default fields, the secrets of every fetch are confined.  A fetch that serves a payload sends no other
secrets than those of the payload, for it is on behalf of no source. -/
theorem fetch_secrets_confined (gateway : Gateway)
    (hd : gateway.config.defaultHeaders = Config.standard.defaultHeaders) :
    (∀ directive timeout? sourceId? (world : World τ), ∃ sent,
      (outcome (gateway.fetch directive timeout? sourceId?) world).2.requests = world.requests ++ sent ∧
      Confined gateway directive sourceId? world.files sent) ∧
    ∀ payload (world : World τ), ∃ sent,
      (outcome (gateway.handle payload) world).2.requests = world.requests ++ sent ∧
      ∀ k request, sent[k]? = some request → ∃ directive timeout?, readPayload payload = .ok (directive, timeout?) ∧
        ∀ name value, (name, value) ∈ request.headers → lowered name ∈ secretHeaders →
          Owned directive sent k (name, value) := by
  refine ⟨fetch_confined hd, ?_⟩
  intro payload world
  rw [outcome_handle]
  cases hp : readPayload payload with
  | error failure => exact ⟨[], by simp, by simp⟩
  | ok asked =>
    obtain ⟨directive, timeout?⟩ := asked
    obtain ⟨sent, hsent, hconfined⟩ := fetch_confined hd directive (timeout?.map .whole) none world
    refine ⟨sent, hsent, ?_⟩
    intro k request hk
    refine ⟨directive, timeout?, rfl, ?_⟩
    intro name value hm hsecret
    obtain ⟨hauthorization, hcookie⟩ := hconfined k request hk name value hm
    rcases List.mem_cons.mp hsecret with hname | hname
    · exact (hcookie hname).resolve_right not_hasCookie_none
    · exact hauthorization (List.mem_singleton.mp hname)

theorem fetch_secrets_confined_on_redirect :
    (Gateway.mk .standard (fun _ => .ok []) none).config.defaultHeaders = Config.standard.defaultHeaders ∧
    ∃ sent, (outcome ((Gateway.mk .standard (fun _ => .ok []) none).fetch
        ⟨"http://a.example/", "GET", [("Cookie", "k=v")], none⟩ none none)
        ({ now := 0, replies := [⟨302, [("Location", "http://b.example/")], [], .whole 1, none⟩],
           lastReply := ⟨200, [], [], .whole 1, none⟩, requests := [], log := [],
           files := ⟨FilePath.ofText "/", []⟩, notes := Notes.empty, progress := [] } : World Rat)).2.requests = [] ++ sent ∧
      Confined (Gateway.mk .standard (fun _ => .ok []) none)
        ⟨"http://a.example/", "GET", [("Cookie", "k=v")], none⟩ none ⟨FilePath.ofText "/", []⟩ sent :=
  ⟨rfl, (fetch_secrets_confined (Gateway.mk .standard (fun _ => .ok []) none) rfl).1 _ _ _ _⟩

end SiteReader.Gateway
