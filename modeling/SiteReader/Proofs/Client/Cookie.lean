import SiteReader.Proofs.Client.Header
import SiteReader.Proofs.Credential.History
import SiteReader.Proofs.Credential.Lasting
import SiteReader.Proofs.Gateway.Ending

/-!
# Stored cookies of first requests

Where nobody asks for a cookie, the first request for a document has the cookie that the store holds for the address asked
for, and failing that the one for the URL that the request goes to, which differs where a relay is in between
(`Client.document_cookie`).  When the store cannot be read nothing is sent.  The document then fails as a store does, unless
the file of the store holds no text at all.
-/

namespace SiteReader

/-- A cookie, if there is one. -/
def given? (cookie : String) : Option String :=
  if cookie.isEmpty then none else some cookie

theorem given?_or (first second : String) : (given? first).or (given? second) = [first, second].find? (· ≠ "") := by
  simp only [given?, String.isEmpty_iff]
  by_cases h : first = "" <;> by_cases h' : second = "" <;> simp [h, h']

namespace CredentialStore

variable {store : CredentialStore} {files : FileSystem}

/-- A store that cannot be read has no answer for a URL with an origin, and the empty one for any other text. -/
theorem outcome_cookieFor_unreadable {failure : Failure} (h : (outcome store.read files).1 = .error failure)
    (sourceId url : String) :
    (outcome (store.cookieFor sourceId url) files).1 = .error failure ∨
      outcome (store.cookieFor sourceId url) files = (.ok "", files) ∧ ∃ fault, Url.originKeys url = .error fault := by
  rw [outcome_cookieFor]
  cases Url.originKeys url with
  | error fault => exact .inr ⟨rfl, fault, rfl⟩
  | ok keys =>
    simp only [h]
    exact .inl rfl

end CredentialStore

namespace Gateway

/-- Where a URL is approved, cookies for it are looked up under its origin. -/
theorem originKeys_of_approved {config : Config} {resolver : Resolver} {url : String}
    (h : checkDestination config resolver url = .ok ()) : ∃ keys, Url.originKeys url = .ok keys := by
  obtain ⟨destination, hd⟩ := accepted_of_checkDestination h
  obtain ⟨parts, name, port, hs, hn, hp, rfl⟩ := ofUrl_eq_ok_iff.mp hd.ofUrl_eq
  have hscheme : parts.scheme ≠ [] := by
    intro hnil
    have hnone : String.ofList [] = "http" ∨ String.ofList [] = "https" := hnil ▸ hd.scheme
    exact absurd hnone (by decide)
  have hhost : parts.host ≠ [] := by
    intro hnil
    rw [hnil] at hn
    obtain rfl := Except.ok.inj hn
    exact hd.host_ne rfl
  have hempty : (parts.scheme.isEmpty || parts.host.isEmpty) = false := by simp [hscheme, hhost]
  simp only [Url.originKeys, Url.originKeysChars, hs, hp, bind, Except.bind, hempty, Bool.false_eq_true, ↓reduceIte]
  exact ⟨_, rfl⟩

variable {gateway : Gateway} {store : CredentialStore} {sourceId url : String} {files : FileSystem}

/-- The cookie among the fields of a request: the last one asked for, if callers may set it, else the one of the gateway. -/
theorem first?_cookie_plainHeaders (gateway : Gateway) (asked : Headers) :
    (gateway.plainHeaders asked).first? "cookie" =
      (if "cookie" ∈ gateway.config.requestHeaders then asked.last? "cookie" else none).or
        (gateway.config.defaultHeaders.last? "cookie") := by
  rw [first?_plainHeaders]
  have hname : lowered "cookie" = "cookie" := by decide
  split
  next h => rw [Headers.last?_only (hname.symm ▸ h)]
  next h => rw [Headers.last?_only_of_not_mem (hname.symm ▸ h)]

/-- With a store that answers, a request has the cookie among its plain fields, or else the one of the store. -/
theorem cookie_requestHeaders (hstore : gateway.store? = some store) (hid : sourceId ≠ "") (asked : Headers) {cookie : String}
    (h : (outcome (store.cookieFor sourceId url) files).1 = .ok cookie) :
    ∃ headers, (outcome (gateway.requestHeaders asked url (some sourceId)) files).1 = .ok headers ∧
      headers.value? "cookie" = ((gateway.plainHeaders asked).value? "cookie").or (given? cookie) := by
  have hne : sourceId.isEmpty = false := by simpa using hid
  rw [outcome_requestHeaders, hstore]
  simp only [hne, Bool.false_or]
  split
  next hnames =>
    refine ⟨_, rfl, ?_⟩
    rw [← Headers.isSome_first?] at hnames
    rw [Headers.value?_eq, Option.or_of_isSome (by rwa [Option.isSome_map])]
  next hnames =>
    have hnone : (gateway.plainHeaders asked).first? "cookie" = none := by
      rw [← Headers.isSome_first?, Bool.not_eq_true, Option.isSome_eq_false_iff, Option.isNone_iff_eq_none] at hnames
      exact hnames
    rw [h]
    refine ⟨_, rfl, ?_⟩
    rw [Headers.value?_eq, Headers.value?_eq, hnone]
    unfold withCookie given?
    split
    next => rw [hnone]; rfl
    next =>
      rw [Headers.first?_set, if_pos (by decide)]
      rfl

/-- With a store that cannot be read, a request for a URL with an origin has no fields, unless a cookie is among its plain
ones. -/
theorem requestHeaders_unreadable (hstore : gateway.store? = some store) (hid : sourceId ≠ "") {asked : Headers}
    (hplain : (gateway.plainHeaders asked).names "cookie" = false) {failure : Failure}
    (hread : (outcome store.read files).1 = .error failure) (hkeys : ∃ keys, Url.originKeys url = .ok keys) :
    (outcome (gateway.requestHeaders asked url (some sourceId)) files).1 = .error failure := by
  have hne : sourceId.isEmpty = false := by simpa using hid
  rw [outcome_requestHeaders, hstore]
  simp only [hne, hplain, Bool.or_self, Bool.false_eq_true, ↓reduceIte]
  rcases CredentialStore.outcome_cookieFor_unreadable hread sourceId url with hc | ⟨-, fault, hfault⟩
  · rw [hc]
    rfl
  · obtain ⟨keys, hkeys⟩ := hkeys
    cases hfault.symm.trans hkeys

end Gateway

namespace Client

open Gateway (World firstRequest? GoesAhead HasTime)

variable {client : Client} {source : Source} {store : CredentialStore} {asked : Directive} {files : FileSystem}
  {target : String}

theorem names_merged (hasked : Headers.names asked.headers "cookie" = false) (hd : (asked.headers.map Prod.fst).Nodup)
    (hown : source.fields.names "cookie" = false) : (source.merged asked).names "cookie" = false := by
  rw [← Headers.last?_eq_none_iff, Source.merged, Headers.last?_updateEntries_of_not_names source.nodup_fields hd hasked,
    Headers.last?_eq_none_iff]
  exact hown

/-- Through a relay the cookie for the target is put in front, and look-ups that come after it find what they would have
found. -/
theorem outcome_relayFields (hstore : client.gateway.store? = some store) {headers : Headers}
    (hnames : headers.names "cookie" = false) {cookie : String}
    (h : (outcome (store.cookieFor source.id target) files).1 = .ok cookie) :
    ∃ files', outcome (client.relayFields source headers target) files =
        (.ok (if (source.relay?.getD "").isEmpty then [] else cookieField cookie), files') ∧
      ∀ sourceId url,
        (outcome (store.cookieFor sourceId url) files').1 = (outcome (store.cookieFor sourceId url) files).1 := by
  unfold relayFields
  split
  next => exact ⟨files, rfl, fun _ _ => rfl⟩
  next =>
    rw [outcome_cookieFields, hstore]
    simp only [hnames, Bool.false_eq_true, ↓reduceIte, h]
    exact ⟨_, rfl, CredentialStore.outcome_cookieFor_again (Prod.ext h rfl)⟩

theorem last?_cookieField (cookie : String) :
    ((cookieField cookie).last? "cookie").map (·.2) = given? cookie := by
  unfold cookieField given?
  split
  next => rfl
  next =>
    rw [Headers.last?_singleton, if_pos (by decide : Headers.sameName "Cookie" "cookie" = true)]
    rfl

/-- The cookie that a relay is given for the target. -/
def relayed? (client : Client) (source : Source) (cookie : String) : Option String :=
  if "cookie" ∈ client.gateway.config.requestHeaders ∧ (source.relay?.getD "").isEmpty = false then given? cookie
  else none

/-- The cookie of the first request for a document when the store can be read and nobody asks for a cookie. -/
theorem cookie_firstHeaders (hstore : client.gateway.store? = some store) (hid : source.id ≠ "")
    (hnames : (source.merged asked).names "cookie" = false) {first second : String}
    (hfirst : (outcome (store.cookieFor source.id target) files).1 = .ok first)
    (hsecond : (outcome (store.cookieFor source.id (Url.throughRelay target source.relay?)) files).1 = .ok second) :
    ∃ headers, (outcome (client.firstHeaders source asked target) files).1 = .ok headers ∧
      headers.value? "cookie" = ((client.relayed? source first).or
        ((client.gateway.config.defaultHeaders.last? "cookie").map (·.2))).or (given? second) := by
  obtain ⟨files', hcookies, hlater⟩ := outcome_relayFields hstore hnames hfirst
  generalize hput : (if (source.relay?.getD "").isEmpty then [] else cookieField first) = cookies at hcookies
  obtain ⟨headers, hheaders, hvalue⟩ := Gateway.cookie_requestHeaders hstore hid (cookies ++ source.merged asked)
    ((hlater source.id _).trans hsecond)
  have hlast : (Headers.last? (cookies ++ source.merged asked) "cookie").map (·.2) =
      if (source.relay?.getD "").isEmpty then none else given? first := by
    rw [Headers.last?_append, Headers.last?_eq_none_iff.mpr hnames, Option.none_or, ← hput]
    split
    next => rfl
    next => exact last?_cookieField first
  have hplain : (client.gateway.plainHeaders (cookies ++ source.merged asked)).value? "cookie" =
      (client.relayed? source first).or ((client.gateway.config.defaultHeaders.last? "cookie").map (·.2)) := by
    rw [Headers.value?_eq, Gateway.first?_cookie_plainHeaders, Option.map_or, relayed?]
    by_cases hallowed : "cookie" ∈ client.gateway.config.requestHeaders
    · simp only [hallowed, true_and, ↓reduceIte, hlast]
      cases (source.relay?.getD "").isEmpty <;> rfl
    · simp only [hallowed, false_and, ↓reduceIte, Option.map_none]
  refine ⟨headers, by rw [firstHeaders, outcome_bind, hcookies]; exact hheaders, ?_⟩
  rw [hvalue, hplain]

/-- When the store cannot be read, the first request for a document has no fields, if cookies for its URL are looked up at
all. -/
theorem firstHeaders_unreadable (hstore : client.gateway.store? = some store) (hid : source.id ≠ "")
    (hnames : (source.merged asked).names "cookie" = false)
    (hdefault : client.gateway.config.defaultHeaders.names "cookie" = false) {failure : Failure}
    (hread : (outcome store.read files).1 = .error failure)
    (hkeys : ∃ keys, Url.originKeys (Url.throughRelay target source.relay?) = .ok keys) :
    (outcome (client.firstHeaders source asked target) files).1 = .error failure := by
  have hplain : (client.gateway.plainHeaders (source.merged asked)).names "cookie" = false := by
    rw [← Headers.isSome_first?, Gateway.first?_cookie_plainHeaders, Headers.last?_eq_none_iff.mpr hnames,
      Headers.last?_eq_none_iff.mpr hdefault]
    split <;> rfl
  have hrequest : (outcome (client.gateway.requestHeaders (source.merged asked)
      (Url.throughRelay target source.relay?) (some source.id)) files).1 = .error failure :=
    Gateway.requestHeaders_unreadable hstore hid hplain hread hkeys
  have hnothing (h : outcome (client.relayFields source (source.merged asked) target) files = (.ok [], files)) :
      (outcome (client.firstHeaders source asked target) files).1 = .error failure := by
    rw [firstHeaders, outcome_bind, h]
    exact hrequest
  by_cases hrelay : (source.relay?.getD "").isEmpty
  · refine hnothing ?_
    rw [relayFields, if_pos hrelay]
    rfl
  · rcases CredentialStore.outcome_cookieFor_unreadable hread source.id target with hc | ⟨hc, -⟩
    · rw [firstHeaders, outcome_bind, relayFields, if_neg hrelay, outcome_cookieFields, hstore]
      simp only [hnames, Bool.false_eq_true, ↓reduceIte, hc]
      rfl
    · refine hnothing ?_
      rw [relayFields, if_neg hrelay, outcome_cookieFields, hstore]
      simp only [hnames, Bool.false_eq_true, ↓reduceIte, hc]
      rfl

variable {τ : Type} [Clock τ]

/-- When nobody asks for a cookie, the first request for a document of a source with a store goes to the address asked for,
through the relay of the source, and its cookie is the one that the relay is given for the target, or else the usual one of
the gateway, or else the one of the store for the URL itself.  So where callers may set cookies and there is no usual one, it
is the first one that the store has for the target and for the URL.  When the store cannot be read, nothing is sent, and the
document fails as the store does if its fetch goes ahead: as a store, if and only if the file of the store holds text. -/
theorem document_cookie (hstore : client.gateway.store? = some store) (hid : source.id ≠ "") {raw : String}
    (hasked : Headers.names (Directive.read raw).headers "cookie" = false)
    (hown : source.fields.names "cookie" = false) (htarget : source.target (Directive.read raw).url = .ok target)
    (timeout? : Option Duration) (world : World τ) :
    let config := client.gateway.config
    let document : Gateway.Session τ (Document × String) := client.document (some source) raw timeout?
    let url := Url.throughRelay target source.relay?
    let stored url := (outcome (store.cookieFor source.id url) world.files).1
    (store.Readable world.files → ∃ first second, stored target = .ok first ∧ stored url = .ok second ∧
      (∀ request, firstRequest? document world = some request → request.url = url ∧ request.headers.NamedOnce ∧
        request.headers.value? "cookie" = ((client.relayed? source first).or
          ((config.defaultHeaders.last? "cookie").map (·.2))).or (given? second) ∧
        ("cookie" ∈ config.requestHeaders → config.defaultHeaders.names "cookie" = false →
          request.headers.value? "cookie" = [first, second].find? (· ≠ ""))) ∧
      (GoesAhead client.gateway url timeout? world → HasTime client.gateway timeout? world →
        ∃ request, firstRequest? document world = some request)) ∧
    ∀ failure, (outcome store.read world.files).1 = .error failure → config.defaultHeaders.names "cookie" = false →
      (outcome document world).2.requests = world.requests ∧
      (GoesAhead client.gateway url timeout? world → (outcome document world).1 = .error failure) ∧
      ((∃ cause, failure = .store cause) ↔ store.HoldsText world.files) := by
  intro config document url stored
  have hnames := names_merged hasked (Directive.nodup_read raw) hown
  have hopens := client.opens_document raw timeout? world htarget
  refine ⟨fun hreadable => ?_, fun failure hread hdefault => ?_⟩
  · obtain ⟨first, hfirst⟩ := hreadable.exists_cookieFor source.id target
    obtain ⟨second, hsecond⟩ := hreadable.exists_cookieFor source.id url
    obtain ⟨headers, hheaders, hvalue⟩ := cookie_firstHeaders hstore hid hnames hfirst hsecond
    refine ⟨first, second, hfirst, hsecond, fun request hr => ?_, hopens.goesOut headers hheaders⟩
    obtain ⟨-, hurl, hfields⟩ := hopens.first request hr
    obtain rfl := Except.ok.inj (hheaders.symm.trans hfields)
    refine ⟨hurl, (document_first_headers hr).1, hvalue, fun hallowed hdefault => ?_⟩
    rw [hvalue, Headers.last?_eq_none_iff.mpr hdefault, Option.map_none, Option.or_none, ← given?_or, relayed?]
    by_cases hrelay : (source.relay?.getD "").isEmpty
    · -- without a relay the request goes to the target itself
      have hsame : url = target := Url.throughRelay_of_isEmpty hrelay target
      have heq : first = second := Except.ok.inj (hfirst.symm.trans (hsame ▸ hsecond))
      rw [if_neg fun h => by simp [hrelay] at h, heq, Option.none_or, Option.or_self]
    · rw [if_pos ⟨hallowed, Bool.eq_false_iff.mpr hrelay⟩]
  · have hunread (ha : GoesAhead client.gateway url timeout? world) :
        (outcome (client.firstHeaders source (Directive.read raw) target) world.files).1 = .error failure :=
      firstHeaders_unreadable hstore hid hnames hdefault hread (Gateway.originKeys_of_approved ha.1)
    refine ⟨hopens.unsent ?_, fun ha => hopens.fails failure (hunread ha) ha, ?_⟩
    · refine Option.eq_none_iff_forall_ne_some.mpr fun request hr => ?_
      obtain ⟨ha, -, hfields⟩ := hopens.first request hr
      cases (hunread ha).symm.trans hfields
    · rcases CredentialStore.readError_cases hread with ⟨htext, hcause⟩ | ⟨hno, rfl⟩
      · exact iff_of_true hcause htext
      · exact iff_of_false (fun ⟨cause, hc⟩ => nomatch hc) hno

/-- Through a relay, the cookie for the target goes out, and nothing does when the file of the store is cut off. -/
theorem document_cookie_relayed :
    let store : CredentialStore := ⟨⟨"/", ["auth.json"]⟩⟩
    let client : Client := ⟨⟨.standard, fun _ => .ok [], some store⟩, none⟩
    let source : Source := { Source.bare "s" with url := "http://a.test/", relay? := some "http://relay.test/" }
    let records : List Credential := [⟨"s", [("relay.test", "r"), ("a.test", "k=1")], []⟩]
    let world (text : String) : World Rat := { World.start Rat ⟨"/", []⟩ ⟨200, [], [], .whole 0, none⟩ with
      files := ⟨⟨"/", []⟩, [(["auth.json"], .file text.toUTF8)]⟩ }
    Headers.names (Directive.read "/p").headers "cookie" = false ∧ source.fields.names "cookie" = false ∧
    source.target (Directive.read "/p").url = .ok "http://a.test/p" ∧
    store.Readable (world (Credential.fileText records)).files ∧
    (∃ request, firstRequest? (client.document (some source) "/p" none) (world (Credential.fileText records)) =
      some request ∧ request.url = "http://relay.test/http%3A%2F%2Fa.test%2Fp" ∧ request.headers.value? "cookie" = some "k=1") ∧
    (outcome store.read (world "[").files).1 = .error (.store (.notJson "/auth.json")) ∧
    (outcome (client.document (some source) "/p" none) (world "[")).2.requests = [] ∧
    (outcome (client.document (some source) "/p" none) (world "[")).1.map Prod.snd =
      .error (.store (.notJson "/auth.json")) := by
  intro store client source records world
  have hasked : Headers.names (Directive.read "/p").headers "cookie" = false := by decide +kernel
  have hown : source.fields.names "cookie" = false := by decide +kernel
  have htarget : source.target (Directive.read "/p").url = .ok "http://a.test/p" := by decide +kernel
  have hurl : Url.throughRelay "http://a.test/p" source.relay? = "http://relay.test/http%3A%2F%2Fa.test%2Fp" := by
    decide +kernel
  have hholds : store.Holds (world (Credential.fileText records)).files records :=
    .written rfl (List.forall_mem_singleton.mpr ⟨⟨by decide, .nil⟩, by decide⟩)
  have hreadable : store.Readable (world (Credential.fileText records)).files := by
    obtain ⟨_, hread, -⟩ := hholds.read
    exact ⟨records, congrArg Prod.fst hread⟩
  have hcut : (outcome store.read (world "[").files).1 = .error (.store (.notJson "/auth.json")) := by
    have hopen : (world "[").files.openFile store.path = .content "[".toUTF8 := rfl
    have htext : Credential.ofFileText store.path.text "[" = .error (.notJson "/auth.json") := by decide +kernel
    rw [CredentialStore.outcome_read_of_content hopen, htext]
    rfl
  have happroved : Gateway.checkDestination .standard (fun _ => .ok []) (Url.throughRelay "http://a.test/p" source.relay?) =
      .ok () := by decide +kernel
  have hahead (text : String) :
      GoesAhead client.gateway (Url.throughRelay "http://a.test/p" source.relay?) none (world text) :=
    ⟨happroved, by decide +kernel⟩
  have hstore : client.gateway.store? = some store := rfl
  have hid : source.id ≠ "" := by decide
  have hcookie (world : World Rat) := document_cookie hstore hid hasked hown htarget none world
  refine ⟨hasked, hown, htarget, hreadable, ?_, hcut, ?_, ?_⟩
  · obtain ⟨first, second, hfirst, -, hsent, hgoes⟩ := (hcookie (world (Credential.fileText records))).1 hreadable
    obtain ⟨request, hr⟩ := hgoes (hahead _) ⟨30, by decide +kernel, by decide +kernel⟩
    obtain ⟨hrequest, -, -, hvalue⟩ := hsent request hr
    obtain ⟨_, hlook, -⟩ := hholds.cookieFor "s" "http://a.test/p"
    have hk : first = "k=1" :=
      (Except.ok.inj ((congrArg Prod.fst hlook).symm.trans hfirst)).symm.trans (by decide +kernel)
    refine ⟨request, hr, hrequest.trans hurl, (hvalue (by decide) (by decide)).trans ?_⟩
    rw [hk]
    rfl
  · exact ((hcookie (world "[")).2 _ hcut (by decide)).1
  · exact congrArg (Except.map Prod.snd) (((hcookie (world "[")).2 _ hcut (by decide)).2.1 (hahead _))

/-- When the file of the store holds no text, the document does not fail as a store does. -/
theorem document_cookie_undecodable :
    ¬ ∀ (store : CredentialStore) (source : Source) (raw target : String) (world : World Rat),
      let gateway : Gateway := ⟨.standard, fun _ => .ok [], some store⟩
      let url := Url.throughRelay target source.relay?
      source.id ≠ "" → Headers.names (Directive.read raw).headers "cookie" = false →
      source.fields.names "cookie" = false → source.target (Directive.read raw).url = .ok target →
      ¬ store.Readable world.files → Gateway.checkDestination gateway.config (world.resolverAt gateway 0) url = .ok () →
      ∃ cause, (outcome ((Client.mk gateway none).document (some source) raw none) world).1 = .error (.store cause) := by
  intro h
  let store : CredentialStore := ⟨⟨"/", ["auth.json"]⟩⟩
  let source : Source := { Source.bare "s" with url := "http://a.test/" }
  let files : FileSystem := ⟨⟨"/", []⟩, [(["auth.json"], .file ⟨#[0xff]⟩)]⟩
  let world : World Rat := { World.start Rat ⟨"/", []⟩ ⟨200, [], [], .whole 0, none⟩ with files }
  have hread : (outcome store.read files).1 = .error (.fault .undecodable) := by
    have hopen : files.openFile store.path = .content ⟨#[0xff]⟩ := rfl
    have hbytes : String.fromUTF8? ⟨#[0xff]⟩ = none := by decide +kernel
    rw [CredentialStore.outcome_read, hopen]
    simp only [hbytes]
  have hunreadable : ¬ store.Readable files := fun ⟨_, hr⟩ => by cases hread.symm.trans hr
  obtain ⟨cause, hcause⟩ := h store source "http://a.test/" "http://a.test/" world (by decide) (by decide +kernel)
    (by decide +kernel) (by decide +kernel) hunreadable (by decide +kernel)
  have hkind : (outcome ((Client.mk ⟨.standard, fun _ => .ok [], some store⟩ none).document (some source)
      "http://a.test/" none) world).1.map Prod.snd = .error (.fault .undecodable) := by decide +kernel
  cases (congrArg (Except.map Prod.snd) hcause).symm.trans hkind

end Client

end SiteReader
