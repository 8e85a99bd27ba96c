import SiteReader.Proofs.Entry
import SiteReader.Proofs.Gateway.Destination
import SiteReader.Proofs.Gateway.Exchange
import SiteReader.Proofs.Gateway.Payload
import SiteReader.Proofs.Header
import SiteReader.Proofs.Json.Printer

/-!
# Serving requests

Without redirects a fetch comes to the answer of the one reply or to a failure that callers are promised
(`Course.settles`), as long as times can be told in seconds.  So every request is served (`handle_serves`), unless its
timeout cannot be used: not-a-number and infinity have no whole milliseconds, and from some length on the milliseconds are
beyond the range of the seconds.  These faults are no failures of any kind, and the caller meets them as they are
(`handle_fault`).
-/

namespace SiteReader

/-! ### Answers -/

/-- Pages of any origin may read an answer. -/
def Response.IsOpen (response : Response) : Prop :=
  ∀ field ∈ Gateway.corsHeaders, field ∈ response.headers

/-- An answer has the status of a kind of failures, and its body is a JSON object that names the kind. -/
def Response.Reports (response : Response) (kind : FailureKind) : Prop :=
  response.status = kind.httpStatus ∧ ∃ (text : String) (fields : List (String × Tree)), response.body = text.toUTF8 ∧
    Json.DocumentText .strict (.object fields) text.toList ∧ Tree.field? "error" fields = some (.text kind.name)

theorem ErrorReport.printable_payload (report : ErrorReport) : Json.Printable report.payload := by
  unfold payload
  cases report.status? with
  | none =>
    refine .object (by simp) ?_
    simp [Json.Printable.boolean, Json.Printable.text]
  | some status =>
    refine .object (by simp) ?_
    simp [Json.Printable.boolean, Json.Printable.text, Json.Printable.integer]

theorem ErrorReport.isOpen_response (report : ErrorReport) : report.response.IsOpen := by
  have h : ∀ field ∈ Gateway.corsHeaders,
      field ∈ updateEntries Gateway.corsHeaders [("Content-Type", "application/json; charset=utf-8")] := by decide
  exact h

theorem ErrorReport.reports_response {report : ErrorReport} {kind : FailureKind} (h : report.kind? = some kind) :
    report.response.Reports kind := by
  have hname : report.kindName = kind.name := by
    unfold kindName
    rw [h]
  have hstatus : report.httpStatus = kind.httpStatus := by
    unfold httpStatus
    rw [h]
  obtain ⟨fields, hfields, herror⟩ : ∃ fields, report.payload = .object fields ∧
      Tree.field? "error" fields = some (.text report.kindName) := ⟨_, rfl, rfl⟩
  have hdocument : Json.DocumentText .strict (.object fields) (Json.render Json.spaced report.payload).toList := by
    rw [Json.render, String.toList_ofList, ← hfields]
    exact Json.print_document (Json.standard_spaced false) report.printable_payload
  have hbody : report.response.body = (Json.render Json.spaced report.payload).toUTF8 := by rw [response]
  rw [hname] at herror
  exact ⟨congrArg Nat.cast hstatus, _, fields, hbody, hdocument, herror⟩

namespace Gateway

variable {τ : Type} [Clock τ]

/-! ### One reply -/

/-- The time that a reply takes, and each part of its body, can be told in seconds. -/
def Reply.IsTimed (τ : Type) [Clock τ] (reply : Reply) : Prop :=
  (Clock.span? reply.cost : Option τ).isSome ∧ ∀ chunk ∈ reply.chunks, (Clock.span? chunk.cost : Option τ).isSome

/-- A failure that callers are promised. -/
def IsPromised (failure : Failure) : Prop :=
  ∃ kind, failure.kind? = some kind

omit [Clock τ] in
theorem location?_of_not_names {reply : Reply} (h : reply.headers.names "Location" = false) : reply.location? = none := by
  unfold Reply.location?
  split
  next => rw [Headers.value?_distinct_of_not_names h]
  next => rfl

omit [Clock τ] in
theorem isPromised_sendFailure (limit : Duration) (disruption : Disruption) : IsPromised (sendFailure limit disruption) := by
  unfold sendFailure
  split <;> exact ⟨_, rfl⟩

omit [Clock τ] in
theorem isPromised_readFailure (limit : Duration) (disruption : Disruption) : IsPromised (readFailure limit disruption) := by
  unfold readFailure
  split <;> exact ⟨_, rfl⟩

theorem isPromised_of_arrival {limit : Duration} {reply : Reply} {now : τ} {failure : Failure} (ht : reply.IsTimed τ)
    (h : (arrival limit reply now).1 = .error failure) : IsPromised failure := by
  obtain ⟨span, hspan⟩ := Option.isSome_iff_exists.mp ht.1
  unfold arrival at h
  rw [hspan] at h
  cases hd : reply.disruption? with
  | none => simp [hd] at h
  | some disruption =>
    obtain rfl : sendFailure limit disruption = failure := by simpa [hd] using h
    exact isPromised_sendFailure limit disruption

theorem isPromised_of_readFrom {deadline : τ} {limit : Duration} {chunks : List Chunk} {now : τ} {failure : Failure}
    (ht : ∀ chunk ∈ chunks, (Clock.span? chunk.cost : Option τ).isSome)
    (h : (readFrom deadline limit chunks now).1 = .error failure) : IsPromised failure := by
  induction chunks generalizing now with
  | nil => cases h
  | cons chunk rest ih =>
    obtain ⟨span, hspan⟩ := Option.isSome_iff_exists.mp (ht chunk List.mem_cons_self)
    unfold readFrom at h
    rw [hspan] at h
    dsimp only at h
    split at h
    next disruption _ =>
      cases h
      exact isPromised_readFailure limit disruption
    next =>
      split at h
      next =>
        cases h
        exact ⟨_, rfl⟩
      next =>
        cases hr : (readFrom deadline limit rest (Clock.add now span)).1 with
        | ok bytes => rw [hr] at h; cases h
        | error failure' =>
          rw [hr] at h
          cases h
          exact ih (fun chunk hm => ht chunk (List.mem_cons_of_mem _ hm)) hr

/-- The answer of a fetch: that of a reply whose status is one of success, or a failure that callers are promised. -/
def Settles (reply : Reply) : Except Failure Response → Prop
  | .ok response => response.status = reply.status ∧ 200 ≤ reply.status ∧ reply.status < 300
  | .error failure => IsPromised failure

omit [Clock τ] in
theorem settles_answerOf (reply : Reply) (url : String) (body : ByteArray) : Settles reply (answerOf reply url body) := by
  unfold answerOf
  split
  next h => exact ⟨rfl, by simpa using h⟩
  next => exact ⟨_, rfl⟩

/-! ### A fetch without redirects -/

variable {gateway : Gateway} {origin : List Char} {deadline : τ} {limit : Duration} {left : Nat} {hop : Hop}
  {world world' : World τ} {sent : List (Request τ)} {result : Except Failure Response}

theorem Course.settles (course : Course gateway origin deadline limit none left hop world sent result world')
    (ha : ∃ authority, authorityOf hop.url = .ok authority) (hl : (world.replyAt 0).location? = none)
    (ht : (world.replyAt 0).IsTimed τ) : Settles (world.replyAt 0) result := by
  cases course with
  | unsent unsent =>
    cases unsent with
    | unreadable h =>
      obtain ⟨confined, hc⟩ := Hop.exists_confined ha _
      cases h.symm.trans hc
    | unfiled _ h => cases h
    | late => exact ⟨_, rfl⟩
  | lost _ h => exact isPromised_of_arrival ht h
  | answered _ _ _ =>
    cases hr : (readFrom deadline limit (world.replyAt 0).chunks (arrival limit (world.replyAt 0) world.now).2).1 with
    | error failure => exact isPromised_of_readFrom ht.2 hr
    | ok body => exact settles_answerOf _ _ body
  -- all other courses follow a redirect
  | exhausted _ _ h | astray _ _ h | refused _ _ h | onward _ _ h => cases hl.symm.trans h

omit [Clock τ] in
/-- What is approved is a URL. -/
theorem split_of_approved {config : Config} {resolver : Resolver} {url : String}
    (h : checkDestination config resolver url = .ok ()) : url ≠ "" ∧ ∃ parts, Url.split url.toList = .ok parts := by
  obtain ⟨destination, hd⟩ := accepted_of_checkDestination h
  obtain ⟨parts, name, port, hs, -, -, rfl⟩ := ofUrl_eq_ok_iff.mp hd.ofUrl_eq
  refine ⟨?_, parts, hs⟩
  rintro rfl
  obtain rfl : parts = ⟨[], [], [], [], []⟩ := (Except.ok.inj hs).symm
  have hscheme : String.ofList [] = "http" ∨ String.ofList [] = "https" := hd.scheme
  exact absurd hscheme (by decide)

omit [Clock τ] in
theorem authorityOf_of_approved {config : Config} {resolver : Resolver} {url : String}
    (h : checkDestination config resolver url = .ok ()) : ∃ authority, authorityOf url = .ok authority := by
  obtain ⟨-, parts, hs⟩ := split_of_approved h
  unfold authorityOf
  rw [hs]
  exact ⟨parts.authority, rfl⟩

/-- Hosts are resolved to nothing but addresses. -/
def ResolvesToAddresses (resolver : Resolver) : Prop :=
  ∀ host addresses, resolver host = .ok addresses → ∀ text ∈ addresses, (specialAddress? text).isSome

omit [Clock τ] in
theorem isPromised_of_checkAddresses {host : String} {addresses : List String} {failure : Failure}
    (ha : ∀ text ∈ addresses, (specialAddress? text).isSome) (h : checkAddresses host addresses = .error failure) :
    IsPromised failure := by
  induction addresses with
  | nil => cases h
  | cons text rest ih =>
    unfold checkAddresses at h
    split at h
    next hn =>
      have := ha text List.mem_cons_self
      rw [hn] at this
      cases this
    next => cases h; exact ⟨_, rfl⟩
    next => exact ih (fun text ht => ha text (List.mem_cons_of_mem _ ht)) h

omit [Clock τ] in
/-- All that the check of a destination answers are refusals, or that a host cannot be resolved. -/
theorem isPromised_of_check {config : Config} {resolver : Resolver} {url : String} {failure : Failure}
    (hr : config.resolveHosts = true → ResolvesToAddresses resolver)
    (h : checkDestination config resolver url = .error failure) : IsPromised failure := by
  rcases accepted_or_blocked config resolver url with ⟨destination, hd⟩ | ⟨refusal, hb⟩
  · rw [hd.checkDestination_eq] at h
    split at h
    next hresolve =>
      unfold checkResolved at h
      split at h
      next => cases h; exact ⟨_, rfl⟩
      next addresses ha => exact isPromised_of_checkAddresses (hr hresolve destination.host addresses ha) h
    next => cases h
  · rw [hb] at h
    cases h
    exact ⟨_, rfl⟩

theorem fetch_settles (hconfig : gateway.config = .standard) {directive : Directive} {timeout? : Option Duration}
    (hl : (world.replyAt 0).location? = none) (ht : (world.replyAt 0).IsTimed τ)
    (hs : (Clock.span? (gateway.limitFor timeout?) : Option τ).isSome ∨
      checkDestination gateway.config (world.resolverAt gateway 0) directive.url ≠ .ok ()) :
    ∃ result world', outcome (gateway.fetch directive timeout? none) world =
        (result.map fun response => { response with headers := gateway.responseHeaders response.headers }, world') ∧
      Settles (world.replyAt 0) result := by
  rcases fetch_cases gateway directive timeout? none world with
    ⟨failure, halted, hf⟩ | ⟨span, origin, sent, result, world', -, -, ha, course, hf⟩
  · refine ⟨.error failure, _, hf, ?_⟩
    cases halted with
    | refused h => exact isPromised_of_check (fun hr => by rw [hconfig] at hr; cases hr) h
    | unbounded hc h => simp [h, hc] at hs
    | unreadable hc h =>
      obtain ⟨authority, ha⟩ := authorityOf_of_approved hc
      cases h.symm.trans ha
  · exact ⟨result, _, hf, course.settles ⟨origin, ha⟩ hl ht⟩

/-- No time limit is set for a timeout that cannot be told in seconds. -/
theorem fetch_overflow {directive : Directive} {timeout? : Option Duration} {sourceId? : Option String}
    (hc : checkDestination gateway.config (world.resolverAt gateway 0) directive.url = .ok ())
    (hs : (Clock.span? (gateway.limitFor timeout?) : Option τ) = none) :
    (outcome (gateway.fetch directive timeout? sourceId?) world).1 = .error (.fault .overflow) := by
  rcases fetch_cases gateway directive timeout? sourceId? world with
    ⟨failure, halted, hf⟩ | ⟨span, origin, sent, result, world', -, hspan, -, -, hf⟩
  · rw [hf]
    cases halted with
    | refused h => cases h.symm.trans hc
    | unbounded => rfl
    | unreadable _ h =>
      obtain ⟨authority, ha⟩ := authorityOf_of_approved hc
      cases h.symm.trans ha
  · cases hs.symm.trans hspan

/-! ### Serving -/

/-- What serving a request makes of a result. -/
def served : Except Failure Response → Except Failure Response
  | .ok response => .ok response
  | .error failure => match failure.kind? with
    | some _ => .ok failure.report.response
    | none => .error failure

theorem handle_eq (gateway : Gateway) (payload : Tree) (world : World τ) :
    outcome (gateway.handle payload) world = match readPayload payload with
      | .error failure => (served (.error failure), world)
      | .ok (directive, timeout?) =>
        let fetched := outcome (gateway.fetch directive (timeout?.map .whole) none) world
        (served fetched.1, fetched.2) := by
  rw [handle, outcome_tryCatch, outcome_bind, outcome_ofExcept]
  cases readPayload payload with
  | error failure =>
    simp only [served]
    cases failure.kind? <;> rfl
  | ok asked =>
    simp only
    rcases outcome (gateway.fetch asked.1 (asked.2.map .whole) none) world with ⟨failure | response, world'⟩
    · simp only [served]
      cases failure.kind? <;> rfl
    · rfl

/-- A request is served by the answer of the other side or by a report of a failure; pages of any origin may read it. -/
def Serves (reply : Reply) (response : Response) : Prop :=
  response.IsOpen ∧ ((response.status = reply.status ∧ 200 ≤ reply.status ∧ reply.status < 300) ∨
    ∃ kind, response.Reports kind)

theorem served_of_isPromised {failure : Failure} (h : IsPromised failure) :
    served (.error failure) = .ok failure.report.response := by
  obtain ⟨kind, hk⟩ := h
  simp only [served, hk]

theorem serves_of_settles (gateway : Gateway) {reply : Reply} {result : Except Failure Response} (h : Settles reply result) :
    ∃ response, served (result.map fun response =>
      { response with headers := gateway.responseHeaders response.headers }) = .ok response ∧ Serves reply response := by
  cases result with
  | ok response =>
    refine ⟨_, rfl, fun field hm => ?_, .inl h⟩
    exact mem_updateEntries (by decide) hm
  | error failure =>
    refine ⟨_, served_of_isPromised h, failure.report.isOpen_response, .inr ?_⟩
    obtain ⟨kind, hk⟩ := h
    exact ⟨kind, ErrorReport.reports_response hk⟩

/-! ### Floating-point seconds -/

theorem isSome_span?_whole (n : Int) :
    (Clock.span? (.whole n) : Option Double).isSome ↔ n.natAbs < 1000 * Double.overflowBound := by
  have hinfinite : Double.ofRatio (n < 0) n.natAbs 1000 = .infinite (n < 0) ↔ 1000 * Double.overflowBound ≤ n.natAbs := by
    rw [Nat.mul_comm]
    exact Double.ofRatio_eq_infinite_iff (by decide)
  rcases Double.ofRatio_cases (n < 0) n.natAbs 1000 with h | ⟨mantissa, exponent, h⟩
  · have hspan : (Clock.span? (.whole n) : Option Double) = none := by
      simp [Clock.span?, Duration.seconds?, h]
    rw [hspan]
    exact iff_of_false nofun (Nat.not_lt.mpr (hinfinite.mp h))
  · have hspan : (Clock.span? (.whole n) : Option Double) = some (.finite (n < 0) mantissa exponent) := by
      simp [Clock.span?, Duration.seconds?, h]
    rw [hspan]
    rw [h] at hinfinite
    exact iff_of_true rfl (Nat.not_le.mp fun hle => nomatch hinfinite.mpr hle)

theorem isSome_span?_limitFor (hconfig : gateway.config = .standard) {n? : Option Int}
    (h : ∀ n ∈ n?, n.natAbs < 1000 * Double.overflowBound) :
    (Clock.span? (gateway.limitFor (n?.map .whole)) : Option Double).isSome := by
  have husual : (Clock.span? gateway.config.defaultTimeout : Option Double).isSome := by
    rw [hconfig]
    exact (isSome_span?_whole 30000).mpr (by decide +kernel)
  unfold limitFor
  cases n? with
  | none => exact husual
  | some n =>
    dsimp only [Option.map_some]
    split
    next => exact husual
    next => exact (isSome_span?_whole n).mpr (h n rfl)

/-! ### Every payload -/

variable {world : World Double} {fields : List (String × Tree)} {url : String}

theorem handle_misshapen (world : World Double) {payload : Tree} (h : Misshapen payload) :
    ∃ response, outcome (gateway.handle payload) world = (.ok response, world) ∧ response.IsOpen ∧
      response.Reports .invalidRequest := by
  obtain ⟨defect, hread⟩ := readPayload_of_misshapen h
  refine ⟨(Failure.invalidRequest defect).report.response, ?_, ErrorReport.isOpen_response _, ErrorReport.reports_response rfl⟩
  rw [handle_eq, hread]
  rfl

theorem handle_asked (hconfig : gateway.config = .standard) (hl : (world.replyAt 0).location? = none)
    (ht : (world.replyAt 0).IsTimed Double) (ha : Asks fields url) (htimeout : IsTimeout (Tree.field? "timeout" fields))
    (he : IsExpressible (Tree.field? "timeout" fields) ∨ ∃ n, Tree.field? "timeout" fields = some (.integer n) ∧
      checkDestination gateway.config (world.resolverAt gateway 0) url ≠ .ok ()) :
    ∃ response world', outcome (gateway.handle (.object fields)) world = (.ok response, world') ∧
      Serves (world.replyAt 0) response := by
  obtain ⟨directive, rfl, hread⟩ := readPayload_of_asks ha
  obtain ⟨n?, hn, hs⟩ : ∃ n?, payloadTimeout (Tree.field? "timeout" fields) = .ok n? ∧
      ((Clock.span? (gateway.limitFor (n?.map .whole)) : Option Double).isSome ∨
        checkDestination gateway.config (world.resolverAt gateway 0) directive.url ≠ .ok ()) := by
    rcases he with he | ⟨n, hn, hc⟩
    · obtain ⟨n?, hn, hbound⟩ := payloadTimeout_of_isTimeout htimeout he
      exact ⟨n?, hn, .inl (isSome_span?_limitFor hconfig hbound)⟩
    · -- the destination is refused before the timeout is looked at
      rw [hn] at htimeout ⊢
      exact ⟨some n, if_neg (Int.not_le.mpr htimeout), .inr hc⟩
  obtain ⟨result, world', hf, hsettles⟩ := fetch_settles hconfig hl ht hs
  obtain ⟨response, hserved, hserves⟩ := serves_of_settles gateway hsettles
  refine ⟨response, world', ?_, hserves⟩
  have hread : readPayload (.object fields) = .ok (directive, n?) := by
    rw [hread, hn]
    rfl
  rw [handle_eq, hread]
  simp only [hf, hserved]

theorem handle_fault (ha : Asks fields url)
    (h : Tree.field? "timeout" fields = some (.double .nan) ∨
      Tree.field? "timeout" fields = some (.double (.infinite false)) ∨
      ∃ n, Tree.field? "timeout" fields = some (.integer n) ∧ 1000 * Double.overflowBound ≤ n ∧
        checkDestination gateway.config (world.resolverAt gateway 0) url = .ok ()) :
    ∃ fault, (outcome (gateway.handle (.object fields)) world).1 = .error (.fault fault) := by
  obtain ⟨directive, rfl, hread⟩ := readPayload_of_asks ha
  rcases h with h | h | ⟨n, h, hn, hc⟩
  · exact ⟨.notANumber, by rw [handle_eq, hread, h]; rfl⟩
  · exact ⟨.overflow, by rw [handle_eq, hread, h]; rfl⟩
  · have hpos : 0 < n := by
      have : 0 < Double.overflowBound := by decide +kernel
      omega
    have hlimit : gateway.limitFor ((some n).map .whole) = .whole n :=
      if_neg (by simpa [Duration.isZero] using Int.ne_of_gt hpos)
    have hspan : (Clock.span? (gateway.limitFor ((some n).map .whole)) : Option Double) = none := by
      rw [hlimit, ← Option.not_isSome_iff_eq_none, isSome_span?_whole]
      omega
    have hread : readPayload (.object fields) = .ok (directive, some n) := by
      rw [hread, h, payloadTimeout, if_neg (Int.not_le.mpr hpos)]
      rfl
    refine ⟨.overflow, ?_⟩
    rw [handle_eq, hread]
    simp only [fetch_overflow hc hspan]
    rfl

/-- With the usual policy, and as long as the reply sends nowhere else and takes a time that can be told in seconds, every
request is answered but those whose timeout is not a number, infinite or too long: these end in a fault.  A misshapen
payload leaves the world as it is, so that no request is sent for it. -/
theorem handle_serves (gateway : Gateway) (hconfig : gateway.config = .standard) (world : World Double)
    (hl : (world.replyAt 0).headers.names "Location" = false) (ht : (world.replyAt 0).IsTimed Double) :
    (∀ payload, Misshapen payload → ∃ response, outcome (gateway.handle payload) world = (.ok response, world) ∧
      response.IsOpen ∧ response.Reports .invalidRequest ∧ response.status = 400) ∧
    (∀ fields url, Asks fields url → IsTimeout (Tree.field? "timeout" fields) →
      (IsExpressible (Tree.field? "timeout" fields) ∨ ∃ n, Tree.field? "timeout" fields = some (.integer n) ∧
        checkDestination gateway.config (world.resolverAt gateway 0) url ≠ .ok ()) →
      ∃ response world', outcome (gateway.handle (.object fields)) world = (.ok response, world') ∧
        Serves (world.replyAt 0) response) ∧
    ∀ fields url, Asks fields url →
      (Tree.field? "timeout" fields = some (.double .nan) ∨
        Tree.field? "timeout" fields = some (.double (.infinite false)) ∨
        ∃ n, Tree.field? "timeout" fields = some (.integer n) ∧ 1000 * Double.overflowBound ≤ n ∧
          checkDestination gateway.config (world.resolverAt gateway 0) url = .ok ()) →
      ∃ fault, (outcome (gateway.handle (.object fields)) world).1 = .error (.fault fault) := by
  refine ⟨?_, ?_, fun fields url ha h => handle_fault ha h⟩
  · intro payload h
    obtain ⟨response, hf, hopen, hreports⟩ := handle_misshapen world h
    exact ⟨response, hf, hopen, hreports, hreports.1⟩
  · intro fields url ha htimeout he
    exact handle_asked hconfig (location?_of_not_names hl) ht ha htimeout he

theorem handle_serves_not_found :
    let gateway : Gateway := ⟨.standard, fun _ => .ok [], none⟩
    let world := World.start Double ⟨"/", []⟩ ⟨404, [("Content-Type", "text/html")], [], .whole 20, none⟩
    (world.replyAt 0).headers.names "Location" = false ∧ (world.replyAt 0).IsTimed Double ∧
    (Misshapen .null ∧ ∃ response, outcome (gateway.handle .null) world = (.ok response, world) ∧ response.IsOpen ∧
      response.Reports .invalidRequest ∧ response.status = 400) ∧
    (Asks [("url", .text "http://example.com/"), ("timeout", .integer 1500)] "http://example.com/" ∧
      ∃ response world', outcome (gateway.handle
          (.object [("url", .text "http://example.com/"), ("timeout", .integer 1500)])) world = (.ok response, world') ∧
        Serves (world.replyAt 0) response) ∧
    (Asks [("url", .text "http://example.com/"), ("timeout", .double .nan)] "http://example.com/" ∧
      ∃ fault, (outcome (gateway.handle
        (.object [("url", .text "http://example.com/"), ("timeout", .double .nan)])) world).1 = .error (.fault fault)) := by
  intro gateway world
  have hl : (world.replyAt 0).headers.names "Location" = false := by decide +kernel
  have ht : (world.replyAt 0).IsTimed Double := ⟨(isSome_span?_whole 20).mpr (by decide +kernel), List.forall_mem_nil _⟩
  have hnull : Misshapen .null := fun _ _ h => nomatch h
  have hasks (t : Tree) : Asks [("url", .text "http://example.com/"), ("timeout", t)] "http://example.com/" :=
    ⟨rfl, by decide, nofun, nofun⟩
  obtain ⟨hmisshapen, hserves, hfault⟩ := handle_serves gateway rfl world hl ht
  refine ⟨hl, ht, ⟨hnull, hmisshapen .null hnull⟩, ⟨hasks _, hserves _ _ (hasks _) ?_ (.inl ?_)⟩,
    ⟨hasks _, hfault _ _ (hasks _) (.inl rfl)⟩⟩
  · show (0 : Int) < 1500
    decide
  · show (1500 : Int) < 1000 * Double.overflowBound
    decide +kernel

/-- A timeout that is not a number is answered by no report of an invalid request. -/
theorem handle_not_a_number :
    (outcome ((Gateway.mk .standard (fun _ => .ok []) none).handle
        (.object [("url", .text "http://example.com/"), ("timeout", .double .nan)]))
      (World.start Double ⟨"/", []⟩ ⟨200, [], [], .whole 0, none⟩)).1 = .error (.fault .notANumber) := by
  rw [handle_eq, show readPayload (.object [("url", .text "http://example.com/"), ("timeout", .double .nan)]) =
    .error (.fault .notANumber) by decide +kernel]
  rfl

end Gateway

end SiteReader
