import SiteReader.Proofs.Credential.Trouble
import SiteReader.Proofs.Gateway.Redirects
import SiteReader.Proofs.Gateway.Secrets
import SiteReader.Proofs.Gateway.Service
import SiteReader.Proofs.Url.Join

/-!
# How fetches end

A fetch ends with an answer of success or with a failure that callers are promised, and adds one line to the log that says
so (`Ends`).  There is one exception: a redirect within the limit to a text that is no URL (`Strays`) is not checked but
joined first, which ends the fetch with a fault and no line (`fetch_ends`).
-/

namespace SiteReader

/-! ### What a fetch relies on -/

/-- A duration above zero and below so many seconds. -/
def Duration.IsWithin (duration : Duration) (seconds : Nat) : Prop :=
  ∃ n d, duration.seconds? = some (n, d) ∧ 0 < n ∧ n < seconds * d

namespace Gateway

theorem isSome_span?_within {duration : Duration} (h : duration.IsWithin 1000000) :
    (Clock.span? duration : Option Double).isSome := by
  obtain ⟨n, d, hs, hpos, hlt⟩ := h
  have hd : d ≠ 0 := by
    rintro rfl
    omega
  have hfinite : Double.ofRatio (n < 0) n.natAbs d ≠ .infinite (n < 0) := by
    rw [Ne, Double.ofRatio_eq_infinite_iff hd]
    have hbound : 1000000 * d ≤ Double.overflowBound * d := Nat.mul_le_mul_right d (by decide +kernel)
    omega
  rcases Double.ofRatio_cases (n < 0) n.natAbs d with h | ⟨mantissa, exponent, h⟩
  · exact absurd h hfinite
  · have hspan : (Clock.span? duration : Option Double) = some (.finite (n < 0) mantissa exponent) := by
      simp [Clock.span?, hs, h]
    rw [hspan]
    rfl

theorem isPromised_of_read {store : CredentialStore} {fs : FileSystem} {failure : Failure} (ht : store.HoldsText fs)
    (h : (outcome store.read fs).1 = .error failure) : IsPromised failure := by
  rcases CredentialStore.readError_cases h with ⟨-, cause, rfl⟩ | ⟨hno, -⟩
  · exact ⟨_, rfl⟩
  · exact absurd ht hno

/-- The look-ups of a gateway's store fail only in ways that callers are promised. -/
def LooksUpSafely (gateway : Gateway) (files : FileSystem) : Prop :=
  ∀ store, gateway.store? = some store → ∀ sourceId url failure,
    (outcome (store.cookieFor sourceId url) files).1 = .error failure → IsPromised failure

theorem looksUpSafely_of_holdsText {gateway : Gateway} {files : FileSystem}
    (h : ∀ store, gateway.store? = some store → store.HoldsText files) : gateway.LooksUpSafely files := by
  intro store hs sourceId url failure hf
  rw [CredentialStore.outcome_cookieFor] at hf
  cases hk : Url.originKeys url with
  | error fault =>
    rw [hk] at hf
    cases hf
  | ok keys =>
    simp only [hk] at hf
    cases hr : (outcome store.read files).1 with
    | ok records =>
      rw [hr] at hf
      cases hf
    | error failure' =>
      rw [hr] at hf
      cases hf
      exact isPromised_of_read (h store hs) hr

variable {gateway : Gateway} {sourceId? : Option String}

theorem LooksUpSafely.requestHeaders_error {files files' : FileSystem} (h : gateway.LooksUpSafely files)
    {asked : Headers} {url : String} {failure : Failure}
    (hf : outcome (gateway.requestHeaders asked url sourceId?) files = (.error failure, files')) : IsPromised failure := by
  rw [outcome_requestHeaders] at hf
  split at hf
  next sourceId store hs =>
    split at hf
    next => cases hf
    next =>
      cases hc : (outcome (store.cookieFor sourceId url) files).1 with
      | ok cookie =>
        rw [hc] at hf
        cases hf
      | error cause =>
        rw [hc] at hf
        cases hf
        exact h store hs sourceId url failure hc
  next => cases hf

variable {τ : Type} [Clock τ]

/-- Replies take times that can be told, hosts are resolved to addresses, and cookies can be looked up. -/
structure Reliable (gateway : Gateway) (world : World τ) : Prop where
  timed : ∀ k, (world.replyAt k).IsTimed τ
  resolves : ∀ k, gateway.config.resolveHosts = true → ResolvesToAddresses (world.resolverAt gateway k)
  looksUp : gateway.LooksUpSafely world.files

theorem Reliable.after {world : World τ} (h : gateway.Reliable world) {asked headers : Headers} {url : String}
    {files : FileSystem} (hh : outcome (gateway.requestHeaders asked url sourceId?) world.files = (.ok headers, files))
    (request : Request τ) (now : τ) : gateway.Reliable (world.after request files now) where
  timed k := by
    rw [World.replyAt_after]
    exact h.timed (k + 1)
  resolves k := by
    rw [World.resolverAt_after]
    exact h.resolves (k + 1)
  looksUp store hs sourceId url failure hf := by
    have hsame := sameCookies_of_requestHeaders hh store hs sourceId url
    exact h.looksUp store hs sourceId url failure (hsame ▸ hf)

/-! ### A chain of redirects -/

/-- The last request is answered, while redirects are left, with one to a text that is no URL. -/
def Strays (left : Nat) (world : World τ) (sent : List (Request τ)) : Prop :=
  ∃ k location, k + 1 = sent.length ∧ k < left ∧ (world.replyAt k).Arrives τ ∧
    (world.replyAt k).location? = some location ∧ Url.IsMalformed location

/-- An exchange ends with the answer of the last reply, whose status is one of success, or with a failure that callers are
promised. -/
inductive Concludes (world : World τ) (sent : List (Request τ)) : Except Failure Response → Prop
  | answered {k : Nat} {response : Response} (hk : k + 1 = sent.length) (hs : response.status = (world.replyAt k).status)
      (h : 200 ≤ response.status ∧ response.status < 300) : Concludes world sent (.ok response)
  | failed {failure : Failure} (h : IsPromised failure) : Concludes world sent (.error failure)

theorem not_strays_nil {left : Nat} {world : World τ} : ¬ Strays left world [] := by
  rintro ⟨k, _, hk, -⟩
  cases hk

theorem strays_singleton {left : Nat} {world : World τ} {request : Request τ} : Strays left world [request] ↔
    0 < left ∧ (world.replyAt 0).Arrives τ ∧ ∃ location, (world.replyAt 0).location? = some location ∧
      Url.IsMalformed location := by
  constructor
  · rintro ⟨k, location, hk, hlt, ha, hl, hm⟩
    obtain rfl : k = 0 := by simpa using hk
    exact ⟨hlt, ha, location, hl, hm⟩
  · rintro ⟨hlt, ha, location, hl, hm⟩
    exact ⟨0, location, rfl, hlt, ha, hl, hm⟩

/-- After a redirect to a URL it is the further course that strays or not. -/
theorem strays_cons {left : Nat} {world : World τ} {sent : List (Request τ)} {location : String}
    (hl : (world.replyAt 0).location? = some location) (hm : ¬ Url.IsMalformed location) (request first : Request τ)
    (files : FileSystem) (now : τ) :
    Strays (left + 1) world (first :: sent) ↔ Strays left (world.after request files now) sent := by
  constructor
  · rintro ⟨k, other, hk, hlt, ha, ho, hbad⟩
    cases k with
    | zero =>
      obtain rfl := Option.some.inj (hl.symm.trans ho)
      exact absurd hbad hm
    | succ k =>
      refine ⟨k, other, by simpa using hk, by omega, ?_, ?_, hbad⟩
      · rw [World.replyAt_after]
        exact ha
      · rw [World.replyAt_after]
        exact ho
  · rintro ⟨k, other, hk, hlt, ha, ho, hbad⟩
    rw [World.replyAt_after] at ha ho
    exact ⟨k + 1, other, by simpa using hk, by omega, ha, ho, hbad⟩

omit [Clock τ] in
theorem Concludes.cons {world : World τ} {sent : List (Request τ)} {result : Except Failure Response}
    {request : Request τ} {files : FileSystem} {now : τ} (h : Concludes (world.after request files now) sent result)
    (first : Request τ) : Concludes world (first :: sent) result := by
  cases h with
  | answered hk hs h =>
    rw [World.replyAt_after] at hs
    exact .answered (by simpa using hk) hs h
  | failed h => exact .failed h

variable {origin : List Char} {deadline : τ} {limit : Duration} {left : Nat} {hop : Hop} {world world' : World τ}
  {sent : List (Request τ)} {result : Except Failure Response}

theorem Course.log_eq (course : Course gateway origin deadline limit sourceId? left hop world sent result world') :
    world'.log = world.log := by
  induction course with
  | onward _ _ _ _ _ _ ih => exact ih
  | _ => rfl

theorem concludes_of_read {reply : Reply} (ht : ∀ chunk ∈ reply.chunks, (Clock.span? chunk.cost : Option τ).isSome)
    (hr : world.replyAt 0 = reply) (now : τ) (url : String) (request : Request τ) :
    Concludes world [request] ((readFrom deadline limit reply.chunks now).1.bind (answerOf reply url)) := by
  cases hread : (readFrom deadline limit reply.chunks now).1 with
  | error failure => exact .failed (isPromised_of_readFrom ht hread)
  | ok body =>
    have hsettles := settles_answerOf reply url body
    simp only [Except.bind]
    cases ha : answerOf reply url body with
    | error failure =>
      rw [ha] at hsettles
      exact .failed hsettles
    | ok response =>
      rw [ha] at hsettles
      obtain ⟨hs, hlow, hhigh⟩ := hsettles
      refine .answered (show 0 + 1 = [request].length from rfl) ?_ ?_
      · rw [hr, hs]
      · rw [hs]
        exact ⟨hlow, hhigh⟩

omit [Clock τ] in
/-- References can be joined to what was approved, unless they are no URLs. -/
theorem join_eq_error_iff_of_approved {config : Config} {resolver : Resolver} {confined : Hop}
    (happroved : checkDestination config resolver hop.url = .ok ()) (hc : hop.confined origin = .ok confined)
    {reply : Reply} {location : String} (hl : reply.location? = some location) {fault : Fault} :
    Url.join confined.url location = .error fault ↔ fault = .malformedUrl ∧ Url.IsMalformed location := by
  obtain ⟨hne, parts, hs⟩ := split_of_approved happroved
  rw [Hop.confined_url hc]
  exact Url.join_eq_error_iff hs hne (location?_eq_some hl).2.2

omit [Clock τ] in
theorem not_isMalformed_of_join {config : Config} {resolver : Resolver} {confined : Hop}
    (happroved : checkDestination config resolver hop.url = .ok ()) (hc : hop.confined origin = .ok confined)
    {reply : Reply} {location url : String} (hl : reply.location? = some location)
    (hj : Url.join confined.url location = .ok url) : ¬ Url.IsMalformed location := by
  intro hm
  have hfault := (join_eq_error_iff_of_approved happroved hc hl).mpr ⟨rfl, hm⟩
  cases hj.symm.trans hfault

/-- An exchange that starts at an approved URL ends as promised unless it strays. -/
theorem Course.ends (course : Course gateway origin deadline limit sourceId? left hop world sent result world')
    (reliable : gateway.Reliable world)
    (happroved : checkDestination gateway.config (world.resolverAt gateway 0) hop.url = .ok ()) :
    ¬ Strays left world sent ∧ Concludes world sent result ∨
      Strays left world sent ∧ result = .error (.fault .malformedUrl) := by
  -- on the course; an exchange strays where its last redirect is joined
  induction course with
  | unsent unsent =>
    refine .inl ⟨not_strays_nil, .failed ?_⟩
    cases unsent with
    | unreadable h =>
      obtain ⟨confined, hc⟩ := Hop.exists_confined (authorityOf_of_approved happroved) _
      cases h.symm.trans hc
    | unfiled _ h => exact reliable.looksUp.requestHeaders_error h
    | late => exact ⟨_, rfl⟩
  | lost sends ha =>
    refine .inl ⟨fun hs => ?_, .failed (isPromised_of_arrival (reliable.timed 0) ha)⟩
    obtain ⟨-, harrives, -⟩ := strays_singleton.mp hs
    cases ha.symm.trans (arrival_eq_ok_iff.mpr harrives)
  | answered sends ha hl =>
    refine .inl ⟨fun hs => ?_, concludes_of_read (reliable.timed 0).2 rfl _ _ _⟩
    obtain ⟨-, -, location, hlocation, -⟩ := strays_singleton.mp hs
    cases hl.symm.trans hlocation
  | exhausted sends ha hl =>
    refine .inl ⟨fun hs => ?_, .failed ⟨_, rfl⟩⟩
    exact absurd (strays_singleton.mp hs).1 (Nat.lt_irrefl 0)
  | astray sends ha hl hj =>
    obtain ⟨rfl, hm⟩ := (join_eq_error_iff_of_approved happroved sends.confined_eq hl).mp hj
    exact .inr ⟨strays_singleton.mpr ⟨Nat.succ_pos _, arrival_eq_ok_iff.mp ha, _, hl, hm⟩, rfl⟩
  | refused sends ha hl hj hc =>
    refine .inl ⟨fun hs => ?_, .failed (isPromised_of_check (reliable.resolves 1) hc)⟩
    obtain ⟨-, -, location, hlocation, hm⟩ := strays_singleton.mp hs
    obtain rfl := Option.some.inj (hl.symm.trans hlocation)
    exact not_isMalformed_of_join happroved sends.confined_eq hl hj hm
  | onward sends ha hl hj hc rest ih =>
    have hm := not_isMalformed_of_join happroved sends.confined_eq hl hj
    have hnext := ih (reliable.after sends.headers_eq _ _) (by rw [World.resolverAt_after, Hop.next_url]; exact hc)
    rcases hnext with ⟨hstrays, hconcludes⟩ | ⟨hstrays, hresult⟩
    · exact .inl ⟨fun hs => hstrays ((strays_cons hl hm _ _ _ _).mp hs), hconcludes.cons _⟩
    · exact .inr ⟨(strays_cons hl hm _ _ _ _).mpr hstrays, hresult⟩

/-! ### A fetch -/

theorem reliable_of_holdsText (ht : ∀ k, (world.replyAt k).IsTimed τ)
    (hr : gateway.config.resolveHosts = true → ∀ k, ResolvesToAddresses (world.resolverAt gateway k))
    (hs : ∀ store, gateway.store? = some store → store.HoldsText world.files) : gateway.Reliable world where
  timed := ht
  resolves k hresolve := hr hresolve k
  looksUp := looksUpSafely_of_holdsText hs

theorem Halted.isPromised {directive : Directive} {failure : Failure} (halted : Halted gateway directive limit world failure)
    (reliable : gateway.Reliable world) (hspan : (Clock.span? limit : Option τ).isSome) : IsPromised failure := by
  cases halted with
  | refused h => exact isPromised_of_check (reliable.resolves 0) h
  | unbounded _ h =>
    rw [h] at hspan
    cases hspan
  | unreadable hc h =>
    obtain ⟨authority, ha⟩ := authorityOf_of_approved hc
    cases h.symm.trans ha

/-- A fetch comes to a result, and its log is closed with that result. -/
theorem fetch_concludes (reliable : gateway.Reliable world) {timeout? : Option Duration}
    (hspan : (Clock.span? (gateway.limitFor timeout?) : Option τ).isSome) (directive : Directive)
    (sourceId? : Option String) :
    ∃ sent result world', outcome (gateway.fetch directive timeout? sourceId?) world =
        (result.map fun response => { response with headers := gateway.responseHeaders response.headers },
          logged directive result world') ∧
      world'.requests = world.requests ++ sent ∧ world'.log = world.log ∧
      (¬ Strays gateway.config.maxRedirects.toNat world sent ∧ Concludes world sent result ∨
        Strays gateway.config.maxRedirects.toNat world sent ∧ result = .error (.fault .malformedUrl)) := by
  rcases fetch_cases gateway directive timeout? sourceId? world with
    ⟨failure, halted, hf⟩ | ⟨span, origin, sent, result, world', happroved, -, -, course, hf⟩
  · refine ⟨[], .error failure, world, hf, by simp, rfl, .inl ⟨not_strays_nil, .failed ?_⟩⟩
    exact halted.isPromised reliable hspan
  · exact ⟨sent, result, world', hf, course.requests_eq, course.log_eq, course.ends reliable happroved⟩

/-- A fetch answers with the status of the last reply, which is one of success, or fails in a way that callers are
promised.  Its log is the old one with one more line, which says so. -/
inductive Ends (directive : Directive) (world : World τ) (sent : List (Request τ)) :
    Except Failure Response → List LogLine → Prop
  | answered {k : Nat} {response : Response} (hk : k + 1 = sent.length) (hs : response.status = (world.replyAt k).status)
      (h : 200 ≤ response.status ∧ response.status < 300) :
      Ends directive world sent (.ok response)
        (world.log ++ [.fetched (methodOf directive) directive.url response.status])
  | failed {failure : Failure} {kind : FailureKind} (hk : failure.kind? = some kind) :
      Ends directive world sent (.error failure) (world.log ++ [.failed (methodOf directive) directive.url kind])

omit [Clock τ] in
theorem Concludes.ends (h : Concludes world sent result) (hlog : world'.log = world.log) (gateway : Gateway)
    (directive : Directive) : Ends directive world sent
      (result.map fun response => { response with headers := gateway.responseHeaders response.headers })
      (logged directive result world').log := by
  cases h with
  | @answered k response hk hs h =>
    have hlogged : (logged directive (.ok response) world').log =
        world.log ++ [.fetched (methodOf directive) directive.url response.status] := by
      rw [← hlog]
      rfl
    rw [hlogged]
    show Ends directive world sent (.ok { response with headers := gateway.responseHeaders response.headers }) _
    exact .answered hk hs h
  | @failed failure h =>
    obtain ⟨kind, hk⟩ := h
    have hlogged : (logged directive (.error failure) world').log =
        world.log ++ [.failed (methodOf directive) directive.url kind] := by
      rw [← hlog]
      simp only [logged, hk]
    rw [hlogged]
    exact .failed hk

/-- A fetch with a time limit below a million seconds ends as promised, and logs one line, unless the last reply redirects
it, while redirects are left, to a text that is no URL.  Then it ends with a fault and logs nothing. -/
theorem fetch_ends (gateway : Gateway) (world : World Double) (timeout? : Option Duration)
    (hlimit : (gateway.limitFor timeout?).IsWithin 1000000) (ht : ∀ k, (world.replyAt k).IsTimed Double)
    (hr : gateway.config.resolveHosts = true → ∀ k, ResolvesToAddresses (world.resolverAt gateway k))
    (hs : ∀ store, gateway.store? = some store → store.HoldsText world.files) (directive : Directive)
    (sourceId? : Option String) :
    ∃ sent result world', outcome (gateway.fetch directive timeout? sourceId?) world = (result, world') ∧
      world'.requests = world.requests ++ sent ∧
      (¬ Strays gateway.config.maxRedirects.toNat world sent → Ends directive world sent result world'.log) ∧
      (Strays gateway.config.maxRedirects.toNat world sent →
        result = .error (.fault .malformedUrl) ∧ world'.log = world.log) := by
  obtain ⟨sent, result, world', hf, hrequests, hlog, h⟩ :=
    fetch_concludes (reliable_of_holdsText ht hr hs) (isSome_span?_within hlimit) directive sourceId?
  refine ⟨sent, _, _, hf, by rw [requests_logged, hrequests], ?_⟩
  rcases h with ⟨hstrays, hconcludes⟩ | ⟨hstrays, rfl⟩
  · exact ⟨fun _ => hconcludes.ends hlog gateway directive, fun h => absurd h hstrays⟩
  · exact ⟨fun h => absurd hstrays h, fun _ => ⟨rfl, hlog⟩⟩

theorem fetch_ends_after_redirect :
    let gateway : Gateway := ⟨.standard, fun _ => .ok [], none⟩
    let world := { World.start Double ⟨"/", []⟩ ⟨200, [], [], .whole 20, none⟩ with
      replies := [⟨302, [("Location", "/b")], [], .whole 30, none⟩] }
    (gateway.limitFor (some (.whole 500))).IsWithin 1000000 ∧ (∀ k, (world.replyAt k).IsTimed Double) ∧
    (gateway.config.resolveHosts = true → ∀ k, ResolvesToAddresses (world.resolverAt gateway k)) ∧
    (∀ store, gateway.store? = some store → store.HoldsText world.files) ∧
    ∃ sent result world', outcome (gateway.fetch ⟨"http://example.com/a", "GET", [], none⟩ (some (.whole 500)) none) world =
        (result, world') ∧
      world'.requests = world.requests ++ sent ∧
      (¬ Strays gateway.config.maxRedirects.toNat world sent →
        Ends ⟨"http://example.com/a", "GET", [], none⟩ world sent result world'.log) ∧
      (Strays gateway.config.maxRedirects.toNat world sent →
        result = .error (.fault .malformedUrl) ∧ world'.log = world.log) := by
  intro gateway world
  have hlimit : (gateway.limitFor (some (.whole 500))).IsWithin 1000000 := ⟨500, 1000, rfl, by decide, by decide⟩
  have ht (k : Nat) : (world.replyAt k).IsTimed Double := by
    cases k with
    | zero => exact ⟨(isSome_span?_whole 30).mpr (by decide +kernel), List.forall_mem_nil _⟩
    | succ k => exact ⟨(isSome_span?_whole 20).mpr (by decide +kernel), List.forall_mem_nil _⟩
  have hr : gateway.config.resolveHosts = true → ∀ k, ResolvesToAddresses (world.resolverAt gateway k) := nofun
  have hs : ∀ store, gateway.store? = some store → store.HoldsText world.files := nofun
  exact ⟨hlimit, ht, hr, hs, fetch_ends gateway world (some (.whole 500)) hlimit ht hr hs _ none⟩

/-- A redirect to a text that is no URL ends a fetch with a fault, and nothing is logged. -/
theorem fetch_strays_to_bracket :
    let gateway : Gateway := ⟨.standard, fun _ => .ok [], none⟩
    let ended := outcome (gateway.fetch ⟨"http://example.com/", "GET", [], none⟩ (some (.whole 1000)) none)
      (World.start Double ⟨"/", []⟩ ⟨302, [("Location", "http://[")], [], .whole 0, none⟩)
    ended.1 = .error (.fault .malformedUrl) ∧ ¬ IsPromised (.fault .malformedUrl) ∧ ended.2.log = [] := by
  refine ⟨eq_error_of_map (f := fun _ => ()) ?_, nofun, ?_⟩
  · decide +kernel
  · decide +kernel

end Gateway

end SiteReader
