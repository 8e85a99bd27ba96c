import SiteReader.Client
import SiteReader.Proofs.Credential.Record
import SiteReader.Proofs.Gateway.Secrets
import SiteReader.Proofs.Gateway.Service
import SiteReader.Proofs.Json.Keys

/-!
# The first request for a document

What a source makes of a directive is said in one equation (`Client.outcome_resolve`): the address completed and taken through
the relay, the fields of the directive set over those of the source, and the cookie of the store in front where a relay needs
it.  The first request of a fetch goes to the URL of its directive with the fields that the gateway gives it
(`Gateway.opens_fetch`), so the first request for a document is known from the directive and the source
(`Client.opens_document`).
-/

namespace SiteReader

/-! ### Directives and header fields as they are read -/

theorem Directive.keyed_of_lenientObject? {text : String} {fields : List (String × Tree)}
    (h : lenientObject? text = some fields) : (Tree.object fields).Keyed := by
  have hobject {text : String} (h : object? text = some fields) : (Tree.object fields).Keyed := by
    unfold object? at h
    split at h
    next read hread =>
      obtain rfl := Option.some.inj h
      exact Json.keyed_of_parse? hread
    next => cases h
  rcases Option.or_eq_some_iff.mp h with h | ⟨-, h⟩
  · exact hobject h
  · exact hobject h

/-- The directive that a text is read as. -/
def Directive.read (raw : String) : Directive :=
  match split raw with
  | (_, none) => get raw
  | (url, some text) => ((lenientObject? text).map (ofOptions url)).getD (get raw)

theorem Directive.outcome_parse (raw : String) (notes : Notes) : (outcome (parse raw) notes).1 = .ok (read raw) := by
  unfold parse read
  rcases split raw with ⟨url, _ | text⟩
  · rfl
  · simp only
    cases lenientObject? text <;> rfl

theorem Directive.nodup_read (raw : String) : ((read raw).headers.map Prod.fst).Nodup := by
  unfold read
  split
  next => exact .nil
  next url text hs =>
    cases hl : lenientObject? text with
    | none => exact .nil
    | some options =>
      simp only [Option.map_some, Option.getD_some, ofOptions]
      split
      next headers hh =>
        have hkeyed := (Tree.keyed_object.mp (keyed_of_lenientObject? hl)).2 _ (Tree.mem_of_field? hh)
        rw [List.map_map]
        exact (Tree.keyed_object.mp hkeyed).1
      next => exact .nil

/-- The header fields of a source as they are read. -/
def Source.fields (source : Source) : Headers :=
  match source.header? with
  | none => []
  | some header =>
    if (trimmed header).isEmpty then []
    else ((Directive.lenientObject? header).getD []).map fun (key, value) => (key, value.plainText)

theorem Source.outcome_defaultHeaders (source : Source) (notes : Notes) :
    (outcome source.defaultHeaders notes).1 = .ok source.fields := by
  unfold defaultHeaders fields
  cases source.header? with
  | none => rfl
  | some header =>
    simp only
    split
    · rfl
    · cases Directive.lenientObject? header <;> rfl

theorem Source.nodup_fields (source : Source) : (source.fields.map Prod.fst).Nodup := by
  unfold fields
  split
  next => exact .nil
  next header hh =>
    split
    next => exact .nil
    next =>
      cases hl : Directive.lenientObject? header with
      | none => exact .nil
      | some fields =>
        rw [Option.getD_some, List.map_map]
        exact (Tree.keyed_object.mp (Directive.keyed_of_lenientObject? hl)).1

/-! ### What a source makes of a directive -/

/-- The address that is asked for, completed by the address of the source. -/
def Source.target (source : Source) (url : String) : Except Fault String :=
  if !source.url.isEmpty && !Client.isWebAddress url then Url.join source.url url else .ok url

/-- The fields of a directive set over those of the source. -/
def Source.merged (source : Source) (directive : Directive) : Headers :=
  updateEntries source.fields directive.headers

theorem Source.nodup_merged (source : Source) (directive : Directive) : ((source.merged directive).map Prod.fst).Nodup :=
  nodup_updateEntries source.nodup_fields _

theorem Url.throughRelay_of_isEmpty {relay? : Option String} (h : (relay?.getD "").isEmpty) (url : String) :
    Url.throughRelay url relay? = url := by
  have hempty : relay?.getD "" = "" := by simpa using h
  rw [throughRelay, hempty]
  exact String.ofList_toList

namespace Client

open Gateway (Session Request World)

/-- A cookie as a field, if there is one. -/
def cookieField (cookie : String) : Headers :=
  if cookie.isEmpty then [] else [("Cookie", cookie)]

/-- The cookie fields that a directive gets because its source is read through a relay. -/
def relayFields (client : Client) (source : Source) (headers : Headers) (target : String) : Filed Headers :=
  if (source.relay?.getD "").isEmpty then return [] else client.cookieFields source headers target

theorem outcome_cookieFields (client : Client) (source : Source) (headers : Headers) (url : String) (files : FileSystem) :
    outcome (client.cookieFields source headers url) files = match client.gateway.store? with
      | none => (.ok [], files)
      | some store =>
        if headers.names "cookie" then (.ok [], files)
        else ((outcome (store.cookieFor source.id url) files).1.map cookieField,
          (outcome (store.cookieFor source.id url) files).2) := by
  unfold cookieFields
  cases client.gateway.store? with
  | none => rfl
  | some store =>
    simp only
    split
    next => rfl
    next =>
      rw [outcome_bind]
      rcases outcome (store.cookieFor source.id url) files with ⟨failure | cookie, read⟩ <;> rfl

/-- A cookie of the store is only added where nobody asks for one. -/
theorem cookieFields_cases {client : Client} {source : Source} {headers cookies : Headers} {target : String}
    {files : FileSystem} (h : (outcome (client.cookieFields source headers target) files).1 = .ok cookies) :
    cookies = [] ∨ headers.names "cookie" = false ∧ ∃ cookie, cookies = [("Cookie", cookie)] := by
  rw [outcome_cookieFields] at h
  split at h
  next => exact .inl (Except.ok.inj h).symm
  next store hs =>
    split at h
    next => exact .inl (Except.ok.inj h).symm
    next hnames =>
      cases hc : (outcome (store.cookieFor source.id target) files).1 with
      | error failure => simp [hc, Except.map] at h
      | ok cookie =>
        simp only [hc, Except.map, Except.ok.injEq, cookieField] at h
        split at h
        next => exact .inl h.symm
        next => exact .inr ⟨Bool.eq_false_iff.mpr hnames, cookie, h.symm⟩

theorem relayFields_cases {client : Client} {source : Source} {headers cookies : Headers} {target : String}
    {files : FileSystem} (h : (outcome (client.relayFields source headers target) files).1 = .ok cookies) :
    cookies = [] ∨ headers.names "cookie" = false ∧ ∃ cookie, cookies = [("Cookie", cookie)] := by
  unfold relayFields at h
  split at h
  next => exact .inl (Except.ok.inj h).symm
  next => exact cookieFields_cases h

theorem nodup_cookieFields {client : Client} {source : Source} {headers cookies : Headers} {target : String}
    {files : FileSystem} (hd : (headers.map Prod.fst).Nodup)
    (h : (outcome (client.cookieFields source headers target) files).1 = .ok cookies) :
    ((cookies ++ headers).map Prod.fst).Nodup := by
  rcases cookieFields_cases h with rfl | ⟨hnames, cookie, rfl⟩
  · exact hd
  · refine List.nodup_cons.mpr ⟨fun hm => ?_, hd⟩
    obtain ⟨field, hfield, heq⟩ := List.mem_map.mp hm
    have hcookie : lowered "Cookie" = lowered "cookie" := by decide
    exact Headers.names_eq_false_iff.mp hnames field hfield (heq ▸ hcookie)

variable {τ : Type}

/-- The directive that is sent for a source. -/
theorem outcome_resolve (client : Client) (source : Source) (directive : Directive) (world : World τ) :
    outcome (client.resolve source directive) world = match source.target directive.url with
      | .error fault => (.error (.fault fault), world)
      | .ok target =>
        let looked := outcome (client.relayFields source (source.merged directive) target) world.files
        (looked.1.map fun cookies => { directive with
            url := Url.throughRelay target source.relay?, headers := cookies ++ source.merged directive },
          { world with files := looked.2, notes := (outcome source.defaultHeaders world.notes).2 }) := by
  unfold resolve
  extract_lets send
  have hsend (target : String) (world : World τ) : outcome (send target) world =
      let looked := outcome (client.relayFields source (source.merged directive) target) world.files
      (looked.1.map fun cookies => { directive with
          url := Url.throughRelay target source.relay?, headers := cookies ++ source.merged directive },
        { world with files := looked.2, notes := (outcome source.defaultHeaders world.notes).2 }) := by
    simp only [send]
    rw [outcome_bind, Gateway.outcome_ofNoted, source.outcome_defaultHeaders]
    have hmerged : updateEntries source.fields directive.headers = source.merged directive := rfl
    simp only [mapError_ok, Directive.withHeaders, Directive.withUrl, relayFields, hmerged]
    cases hrelay : source.relay? with
    | none =>
      rw [@Url.throughRelay_of_isEmpty none rfl]
      rfl
    | some relay =>
      simp only [Option.getD_some]
      split
      next hempty =>
        have hurl := @Url.throughRelay_of_isEmpty (some relay) hempty target
        rw [hurl]
        rfl
      next =>
        rw [outcome_bind, Gateway.outcome_ofFiled]
        rcases hc : outcome (client.cookieFields source (source.merged directive) target) world.files with
          ⟨failure | cookies, files⟩
        · rfl
        · have hd := nodup_cookieFields (source.nodup_merged directive) (congrArg Prod.fst hc)
          simp only [updateEntries_of_nodup hd, outcome_pure]
          rfl
  unfold Source.target
  split
  next =>
    rw [outcome_bind, Gateway.outcome_ofFault]
    cases Url.join source.url directive.url with
    | error fault => rfl
    | ok target => exact hsend target world
  next => exact hsend directive.url world

end Client

/-! ### The first request of a fetch -/

namespace Gateway

variable {τ α : Type}

/-- The first request that a computation sends. -/
def firstRequest? (x : Session τ α) (world : World τ) : Option (Request τ) :=
  (outcome x world).2.requests[world.requests.length]?

variable [Clock τ] {gateway : Gateway} {origin : List Char} {deadline : τ} {limit : Duration} {left : Nat}
  {sourceId? : Option String} {hop : Hop} {world world' : World τ} {sent : List (Request τ)}
  {result : Except Failure Response}

theorem Hop.confined_of_authority (h : authorityOf hop.url = .ok origin) : hop.confined origin = .ok hop := by
  rw [Hop.confined, h]
  simp [bind, Except.bind, pure, Except.pure]

/-- Either the fields of its first request cannot be told, which ends a course, or its first request has these fields. -/
theorem Course.begins (course : Course gateway origin deadline limit sourceId? left hop world sent result world')
    (ho : authorityOf hop.url = .ok origin) {fields : Except Failure Headers}
    (hf : (outcome (gateway.requestHeaders hop.headers hop.url sourceId?) world.files).1 = fields) :
    (∃ failure, fields = .error failure ∧ sent = [] ∧ result = .error failure) ∨
      ∃ headers, fields = .ok headers ∧
        (∀ request, sent[0]? = some request → request.url = hop.url ∧ request.headers = headers) ∧
        (Clock.isLess Clock.zero (Clock.sub deadline world.now) = true → ∃ request, sent[0]? = some request) := by
  have hconfined := Hop.confined_of_authority ho
  have hsends {confined : Hop} {headers : Headers} {files : FileSystem}
      (sends : Sends gateway origin deadline sourceId? hop world confined headers files) : fields = .ok headers := by
    obtain rfl := Except.ok.inj (hconfined.symm.trans sends.confined_eq)
    rw [← hf, sends.headers_eq]
  cases course with
  | unsent unsent =>
    cases unsent with
    | unreadable h => cases hconfined.symm.trans h
    | unfiled hc h =>
      obtain rfl := Except.ok.inj (hconfined.symm.trans hc)
      exact .inl ⟨_, hf.symm.trans (congrArg Prod.fst h), rfl, rfl⟩
    | late hc hh h =>
      obtain rfl := Except.ok.inj (hconfined.symm.trans hc)
      exact .inr ⟨_, hf.symm.trans (congrArg Prod.fst hh), nofun, fun ht => by cases h.symm.trans ht⟩
  | lost sends | answered sends | exhausted sends | astray sends | refused sends | onward sends =>
    refine .inr ⟨_, hsends sends, fun request h => ?_, fun _ => ⟨_, rfl⟩⟩
    obtain rfl := Option.some.inj h
    exact ⟨Hop.confined_url sends.confined_eq, rfl⟩

variable {directive : Directive} {timeout? : Option Duration} {request : Request τ}

/-- A fetch goes ahead: its destination is approved, and its time limit can be expressed. -/
def GoesAhead (gateway : Gateway) (url : String) (timeout? : Option Duration) (world : World τ) : Prop :=
  checkDestination gateway.config (world.resolverAt gateway 0) url = .ok () ∧
    (Clock.span? (gateway.limitFor timeout?) : Option τ).isSome

/-- Some time is left at once when a fetch starts. -/
def HasTime (gateway : Gateway) (timeout? : Option Duration) (world : World τ) : Prop :=
  ∃ span, Clock.span? (gateway.limitFor timeout?) = some span ∧
    Clock.isLess Clock.zero (Clock.sub (Clock.add world.now span) world.now) = true

/-- How a computation begins whose first request would go to a URL with these fields, if they can be told. -/
structure Opens (gateway : Gateway) (timeout? : Option Duration) (x : Session τ α) (world : World τ) (url : String)
    (fields : Except Failure Headers) : Prop where
  first : ∀ request, firstRequest? x world = some request →
    GoesAhead gateway url timeout? world ∧ request.url = url ∧ fields = .ok request.headers
  unsent : firstRequest? x world = none → (outcome x world).2.requests = world.requests
  fails : ∀ failure, fields = .error failure → GoesAhead gateway url timeout? world →
    (outcome x world).1 = .error failure
  goesOut : ∀ headers, fields = .ok headers → GoesAhead gateway url timeout? world → HasTime gateway timeout? world →
    ∃ request, firstRequest? x world = some request

/-- Two worlds in which the same time has passed, with the same requests sent and the same look-ups of hosts to come. -/
structure SameTurn (world later : World τ) : Prop where
  now : later.now = world.now
  requests : later.requests = world.requests
  lookups : later.lookups = world.lookups

/-- A computation opens as what it ends with, if nothing is sent before. -/
theorem Opens.of_later {β : Type} {x : Session τ α} {y : Session τ β} {world later : World τ} {url : String}
    {fields : Except Failure Headers} (h : Opens gateway timeout? x later url fields) (same : SameTurn world later)
    (hsent : (outcome y world).2.requests = (outcome x later).2.requests)
    (hfails : ∀ failure, (outcome x later).1 = .error failure → (outcome y world).1 = .error failure) :
    Opens gateway timeout? y world url fields := by
  have hfirst : firstRequest? y world = firstRequest? x later := by
    rw [firstRequest?, firstRequest?, hsent, same.requests]
  have hahead : GoesAhead gateway url timeout? world = GoesAhead gateway url timeout? later := by
    rw [GoesAhead, GoesAhead, World.resolverAt, World.resolverAt, same.lookups]
  have htime : HasTime gateway timeout? world = HasTime gateway timeout? later := by
    rw [HasTime, HasTime, same.now]
  refine ⟨?_, fun hnone => ?_, fun failure hf ha => ?_, ?_⟩
  · rw [hfirst, hahead]
    exact h.first
  · rw [hsent, h.unsent (hfirst ▸ hnone), same.requests]
  · exact hfails failure (h.fails failure hf (hahead ▸ ha))
  · rw [hfirst, hahead, htime]
    exact h.goesOut

theorem opens_fetch (gateway : Gateway) (directive : Directive) (timeout? : Option Duration)
    (sourceId? : Option String) (world : World τ) :
    Opens gateway timeout? (gateway.fetch directive timeout? sourceId?) world directive.url
      (outcome (gateway.requestHeaders directive.headers directive.url sourceId?) world.files).1 := by
  rcases fetch_cases gateway directive timeout? sourceId? world with
    ⟨failure, halted, hf⟩ | ⟨span, origin, sent, result, world', hc, hs, ha, course, hf⟩
  · have hahead : ¬ GoesAhead gateway directive.url timeout? world := by
      rintro ⟨hc, hspan⟩
      cases halted with
      | refused h => cases hc.symm.trans h
      | unbounded _ h => simp [h] at hspan
      | unreadable _ h =>
        obtain ⟨authority, ha⟩ := authorityOf_of_approved hc
        cases h.symm.trans ha
    have hsent : (outcome (gateway.fetch directive timeout? sourceId?) world).2.requests = world.requests := by
      rw [hf, requests_logged]
    exact ⟨fun request h => by simp [firstRequest?, hsent] at h, fun _ => hsent, fun _ _ h => absurd h hahead,
      fun _ _ h => absurd h hahead⟩
  · have hsent : (outcome (gateway.fetch directive timeout? sourceId?) world).2.requests = world.requests ++ sent := by
      rw [hf, requests_logged, course.requests_eq]
    have hfirst : firstRequest? (gateway.fetch directive timeout? sourceId?) world = sent[0]? := by
      rw [firstRequest?, hsent, List.getElem?_append_right (Nat.le_refl _), Nat.sub_self]
    have hunsent (hnone : firstRequest? (gateway.fetch directive timeout? sourceId?) world = none) :
        (outcome (gateway.fetch directive timeout? sourceId?) world).2.requests = world.requests := by
      rw [hfirst, List.getElem?_eq_none_iff, Nat.le_zero, List.length_eq_zero_iff] at hnone
      rw [hsent, hnone, List.append_nil]
    have hahead : GoesAhead gateway directive.url timeout? world := ⟨hc, by rw [hs]; rfl⟩
    rcases course.begins ha rfl with ⟨failure, hfields, rfl, rfl⟩ | ⟨headers, hfields, hheaders, htime⟩
    · change (outcome (gateway.requestHeaders directive.headers directive.url sourceId?) world.files).1 = _ at hfields
      rw [hfields]
      refine ⟨fun request h => ?_, hunsent, fun _ h _ => ?_, nofun⟩
      · rw [hfirst] at h
        cases h
      · rw [hf, Except.error.inj h]
        rfl
    · change (outcome (gateway.requestHeaders directive.headers directive.url sourceId?) world.files).1 = _ at hfields
      rw [hfields]
      refine ⟨fun request h => ?_, hunsent, nofun, fun _ _ _ ⟨span', hs', ht⟩ => ?_⟩
      · obtain ⟨hurl, rfl⟩ := hheaders request (hfirst ▸ h)
        exact ⟨hahead, hurl, rfl⟩
      · obtain rfl := Option.some.inj (hs.symm.trans hs')
        rw [hfirst]
        exact htime ht

end Gateway

/-! ### The first request for a document -/

namespace Client

open Gateway (Session Request World firstRequest?)

variable {τ : Type} [Clock τ] (client : Client) (raw : String) (timeout? : Option Duration) (world : World τ)

/-- The page that links of a document for a source are relative to. -/
def pageOf (source : Source) (directive : Directive) : Except Fault String :=
  if source.url.isEmpty then .ok directive.url else Url.join source.url directive.url

theorem outcome_document (source : Source) :
    outcome (client.document (some source) raw timeout?) world =
      match outcome (client.resolve source (Directive.read raw))
        { world with notes := (outcome (Directive.parse raw) world.notes).2 } with
      | (.error failure, resolved) => (.error failure, resolved)
      | (.ok sent, resolved) =>
        let fetched := outcome (client.gateway.fetch sent timeout? (some source.id)) resolved
        (fetched.1.bind fun response =>
          ((pageOf source (Directive.read raw)).mapError .fault).map (Document.ofText response.text, ·), fetched.2) := by
  unfold document
  rw [outcome_bind, Gateway.outcome_ofNoted, Directive.outcome_parse]
  simp only [mapError_ok, outcome_bind]
  rcases outcome (client.resolve source (Directive.read raw))
    { world with notes := (outcome (Directive.parse raw) world.notes).2 } with ⟨failure | sent, resolved⟩
  · rfl
  · simp only [Option.map_some]
    rcases outcome (client.gateway.fetch sent timeout? (some source.id)) resolved with ⟨failure | response, fetched⟩
    · rfl
    · simp only [pageOf]
      split
      next => rfl
      next =>
        rw [outcome_bind, Gateway.outcome_ofFault]
        cases Url.join source.url (Directive.read raw).url <;> rfl

/-- Without a source a document is what its directive fetches. -/
theorem outcome_document_none :
    outcome (client.document none raw timeout?) world =
      let fetched := outcome (client.gateway.fetch (Directive.read raw) timeout? none)
        { world with notes := (outcome (Directive.parse raw) world.notes).2 }
      (fetched.1.map fun response => (Document.ofText response.text, (Directive.read raw).url), fetched.2) := by
  unfold document
  rw [outcome_bind, Gateway.outcome_ofNoted, Directive.outcome_parse]
  simp only [mapError_ok, outcome_bind, outcome_pure, Option.map_none]
  rcases outcome (client.gateway.fetch (Directive.read raw) timeout? none) _ with ⟨failure | response, fetched⟩ <;> rfl

/-- The fields of the first request for a document. -/
def firstHeaders (client : Client) (source : Source) (asked : Directive) (target : String) : Filed Headers := do
  let cookies ← client.relayFields source (source.merged asked) target
  client.gateway.requestHeaders (cookies ++ source.merged asked) (Url.throughRelay target source.relay?) (some source.id)

open Gateway (GoesAhead HasTime Opens opens_fetch)

variable {source : Source}

theorem opens_document_none :
    Opens client.gateway timeout? (client.document none raw timeout?) world (Directive.read raw).url
      (outcome (client.gateway.requestHeaders (Directive.read raw).headers (Directive.read raw).url none) world.files).1 := by
  have hdocument := client.outcome_document_none raw timeout? world
  have hopens := opens_fetch client.gateway (Directive.read raw) timeout? none
    { world with notes := (outcome (Directive.parse raw) world.notes).2 }
  refine hopens.of_later ⟨rfl, rfl, rfl⟩ (by rw [hdocument]) fun failure hf => ?_
  simp only [hdocument, hf, Except.map]

/-- A document whose address cannot be completed is not asked for. -/
theorem document_of_target_error {fault : Fault} (h : source.target (Directive.read raw).url = .error fault) :
    (outcome (client.document (some source) raw timeout?) world).2.requests = world.requests ∧
      (outcome (client.document (some source) raw timeout?) world).1 = .error (.fault fault) := by
  rw [outcome_document, outcome_resolve, h]
  exact ⟨rfl, rfl⟩

/-- The first request for a document goes to the address that is asked for, through the relay of the source.  Without fields
for it nothing is sent, and the document fails for the same reason if its fetch goes ahead. -/
theorem opens_document {target : String} (h : source.target (Directive.read raw).url = .ok target) :
    Opens client.gateway timeout? (client.document (some source) raw timeout?) world
      (Url.throughRelay target source.relay?)
      (outcome (client.firstHeaders source (Directive.read raw) target) world.files).1 := by
  have hdocument := client.outcome_document raw timeout? world source
  rw [outcome_resolve, h] at hdocument
  rw [firstHeaders, outcome_bind]
  rcases hlooked : outcome (client.relayFields source (source.merged (Directive.read raw)) target) world.files with
    ⟨failure | cookies, files⟩
  · simp only [hlooked, Except.map] at hdocument
    refine ⟨fun request hr => ?_, fun _ => by rw [hdocument], fun _ hf _ => by rw [hdocument, Except.error.inj hf], nofun⟩
    simp [firstRequest?, hdocument] at hr
  · simp only [hlooked, Except.map] at hdocument
    have hopens := opens_fetch client.gateway { Directive.read raw with
        url := Url.throughRelay target source.relay?, headers := cookies ++ source.merged (Directive.read raw) }
      timeout? (some source.id) { world with
        files, notes := (outcome source.defaultHeaders (outcome (Directive.parse raw) world.notes).2).2 }
    refine hopens.of_later ⟨rfl, rfl, rfl⟩ (by rw [hdocument]) fun failure hf => ?_
    rw [hdocument, hf]
    rfl

end Client

end SiteReader
