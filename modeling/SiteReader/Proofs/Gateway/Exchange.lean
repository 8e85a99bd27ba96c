import SiteReader.Proofs.Gateway.Session

/-!
# The course of an exchange

An exchange is a chain of hops, each of which sends at most one request.  `Course` lists the ways that a hop can end, with
the requests sent from it on; every exchange takes such a course (`course_of_exchange`), so that what holds of a chain of
hops is proved by induction on its course.  Where it ends in an answer, that is the one of the last reply
(`Course.exists_answer`).  A fetch is a check of its destination and then an exchange (`fetch_cases`).
-/

namespace SiteReader.Gateway

variable {τ : Type} [Clock τ]

/-! ### One hop -/

/-- The request of a hop. -/
def Hop.request (hop : Hop) (headers : Headers) (timeout : τ) (closed : Bool) : Request τ :=
  ⟨hop.method, hop.url, headers, hop.body?, timeout, false, closed⟩

theorem Hop.confined_cases {hop confined : Hop} {origin : List Char} (h : hop.confined origin = .ok confined) :
    (authorityOf hop.url = .ok origin ∧ confined = hop) ∨
      ∃ authority, authorityOf hop.url = .ok authority ∧ authority ≠ origin ∧
        confined = { hop with headers := hop.headers.without secretHeaders } := by
  unfold Hop.confined at h
  cases ha : authorityOf hop.url with
  | error fault => rw [ha] at h; cases h
  | ok authority =>
    rw [ha] at h
    by_cases heq : authority = origin
    · left
      simp only [bind, Except.bind, heq, ↓reduceIte, pure, Except.pure] at h
      exact ⟨by rw [heq], (Except.ok.inj h).symm⟩
    · right
      simp only [bind, Except.bind, heq, ↓reduceIte, pure, Except.pure] at h
      exact ⟨authority, rfl, heq, (Except.ok.inj h).symm⟩

theorem Hop.confined_url {hop confined : Hop} {origin : List Char} (h : hop.confined origin = .ok confined) :
    confined.url = hop.url := by
  rcases Hop.confined_cases h with ⟨-, rfl⟩ | ⟨_, -, -, rfl⟩ <;> rfl

theorem Hop.exists_confined {hop : Hop} (h : ∃ authority, authorityOf hop.url = .ok authority) (origin : List Char) :
    ∃ confined, hop.confined origin = .ok confined := by
  obtain ⟨authority, ha⟩ := h
  unfold Hop.confined
  rw [ha]
  simp only [bind, Except.bind]
  split
  next => exact ⟨_, rfl⟩
  next => exact ⟨_, rfl⟩

@[simp] theorem Hop.next_url (hop : Hop) (status : Int) (url : String) : (hop.next status url).url = url := by
  unfold Hop.next
  split <;> rfl

@[simp] theorem Hop.next_headers (hop : Hop) (status : Int) (url : String) :
    (hop.next status url).headers = hop.headers := by
  unfold Hop.next
  split <;> rfl

omit [Clock τ] in
theorem closeLast_after (world : World τ) (hop : Hop) (headers : Headers) (timeout : τ) (files : FileSystem) (now : τ) :
    (world.after (hop.request headers timeout false) files now).closeLast =
      world.after (hop.request headers timeout true) files now := by
  simp [World.closeLast, World.after, Hop.request]

variable (gateway : Gateway) (origin : List Char) (deadline : τ) (limit : Duration) (sourceId? : Option String)

/-- A hop, confined to the origin, goes out with some fields while there is time, and leaves the files in some state. -/
structure Sends (hop : Hop) (world : World τ) (confined : Hop) (headers : Headers) (files : FileSystem) : Prop where
  confined_eq : hop.confined origin = .ok confined
  headers_eq : outcome (gateway.requestHeaders confined.headers confined.url sourceId?) world.files = (.ok headers, files)
  inTime : Clock.isLess Clock.zero (Clock.sub deadline world.now) = true

/-- A hop ends before its request is sent, with a failure, and leaves the files in some state. -/
inductive Unsent (hop : Hop) (world : World τ) : Failure → FileSystem → Prop
  | unreadable {fault : Fault} (h : hop.confined origin = .error fault) : Unsent hop world (.fault fault) world.files
  | unfiled {confined : Hop} {failure : Failure} {files : FileSystem} (hc : hop.confined origin = .ok confined)
      (h : outcome (gateway.requestHeaders confined.headers confined.url sourceId?) world.files =
        (.error failure, files)) : Unsent hop world failure files
  | late {confined : Hop} {headers : Headers} {files : FileSystem} (hc : hop.confined origin = .ok confined)
      (hh : outcome (gateway.requestHeaders confined.headers confined.url sourceId?) world.files = (.ok headers, files))
      (h : Clock.isLess Clock.zero (Clock.sub deadline world.now) = false) : Unsent hop world (.timedOut limit) files

variable {gateway origin deadline limit sourceId?}

private theorem outcome_visit_unsent {hop : Hop} {world : World τ} {failure : Failure} {files : FileSystem}
    (h : Unsent gateway origin deadline limit sourceId? hop world failure files) :
    outcome (gateway.visit origin deadline limit sourceId? hop) world = (.error failure, { world with files }) := by
  rw [visit, outcome_bind, outcome_ofFault]
  cases h with
  | unreadable h => rw [h]; rfl
  | unfiled hc h =>
    rw [hc]
    simp only [mapError_ok, outcome_bind, outcome_ofFiled, h]
  | @late confined headers _ hc hh h =>
    have hs : outcome (send confined.method confined.url headers confined.body? deadline limit) { world with files } =
        (.error (.timedOut limit), { world with files }) := outcome_send_late h
    rw [hc]
    simp only [mapError_ok, outcome_bind, outcome_ofFiled, hh, hs]

/-- A request goes out, and what follows depends on whether its reply arrives. -/
private theorem outcome_visit {hop : Hop} {world : World τ} {confined : Hop} {headers : Headers} {files : FileSystem}
    (sends : Sends gateway origin deadline sourceId? hop world confined headers files) :
    outcome (gateway.visit origin deadline limit sourceId? hop) world =
      let sent := world.after (confined.request headers (Clock.sub deadline world.now) false) files
        (arrival limit (world.replyAt 0) world.now).2
      match (arrival limit (world.replyAt 0) world.now).1 with
      | .error failure => (.error failure, sent)
      | .ok _ => match outcome (followUp (world.replyAt 0) deadline limit) sent with
        | (.error failure, closed) => (.error failure, closed)
        | (.ok (.inl body), closed) => ((answerOf (world.replyAt 0) confined.url body).map .inl, closed)
        | (.ok (.inr location), closed) => (.ok (.inr (confined, (world.replyAt 0).status, location)), closed) := by
  have hs : outcome (send confined.method confined.url headers confined.body? deadline limit) { world with files } =
      ((arrival limit (world.replyAt 0) world.now).1.map fun _ => world.replyAt 0,
        world.after (confined.request headers (Clock.sub deadline world.now) false) files
          (arrival limit (world.replyAt 0) world.now).2) := outcome_send sends.inTime
  rw [visit, outcome_bind, outcome_ofFault, sends.confined_eq]
  simp only [mapError_ok, outcome_bind, outcome_ofFiled, sends.headers_eq, hs]
  cases (arrival limit (world.replyAt 0) world.now).1 with
  | error failure => rfl
  | ok _ =>
    simp only [Except.map]
    rcases outcome (followUp (world.replyAt 0) deadline limit) _ with ⟨_ | _ | _, _⟩
    · rfl
    · simp only [outcome_map, outcome_ofExcept, Except.map]
    · rfl

theorem outcome_visit_lost {hop : Hop} {world : World τ} {confined : Hop} {headers : Headers}
    {files : FileSystem} {failure : Failure}
    (sends : Sends gateway origin deadline sourceId? hop world confined headers files)
    (h : (arrival limit (world.replyAt 0) world.now).1 = .error failure) :
    outcome (gateway.visit origin deadline limit sourceId? hop) world =
      (.error failure, world.after (confined.request headers (Clock.sub deadline world.now) false) files
        (arrival limit (world.replyAt 0) world.now).2) := by
  rw [outcome_visit sends, h]

theorem outcome_visit_answered {hop : Hop} {world : World τ} {confined : Hop} {headers : Headers}
    {files : FileSystem} (sends : Sends gateway origin deadline sourceId? hop world confined headers files)
    (arrives : (arrival limit (world.replyAt 0) world.now).1 = .ok ()) (h : (world.replyAt 0).location? = none) :
    outcome (gateway.visit origin deadline limit sourceId? hop) world =
      let read := readFrom deadline limit (world.replyAt 0).chunks (arrival limit (world.replyAt 0) world.now).2
      ((read.1.bind (answerOf (world.replyAt 0) confined.url)).map .inl,
        world.after (confined.request headers (Clock.sub deadline world.now) true) files read.2) := by
  rw [outcome_visit sends, arrives]
  simp only [outcome_followUp, h, World.now_after]
  rw [← closeLast_after]
  cases (readFrom deadline limit (world.replyAt 0).chunks (arrival limit (world.replyAt 0) world.now).2).1 <;> rfl

theorem outcome_visit_redirected {hop : Hop} {world : World τ} {confined : Hop} {headers : Headers}
    {files : FileSystem} {location : String}
    (sends : Sends gateway origin deadline sourceId? hop world confined headers files)
    (arrives : (arrival limit (world.replyAt 0) world.now).1 = .ok ())
    (h : (world.replyAt 0).location? = some location) :
    outcome (gateway.visit origin deadline limit sourceId? hop) world =
      (.ok (.inr (confined, (world.replyAt 0).status, location)),
        world.after (confined.request headers (Clock.sub deadline world.now) true) files
          (arrival limit (world.replyAt 0) world.now).2) := by
  rw [outcome_visit sends, arrives]
  simp only [outcome_followUp, h, closeLast_after]

/-- A hop comes to no request or sends one. -/
private theorem unsent_or_sends (hop : Hop) (world : World τ) :
    (∃ failure files, Unsent gateway origin deadline limit sourceId? hop world failure files) ∨
      ∃ confined headers files, Sends gateway origin deadline sourceId? hop world confined headers files := by
  cases hc : hop.confined origin with
  | error fault => exact .inl ⟨_, _, .unreadable hc⟩
  | ok confined =>
    rcases hh : outcome (gateway.requestHeaders confined.headers confined.url sourceId?) world.files with
      ⟨failure | headers, files⟩
    · exact .inl ⟨_, _, .unfiled hc hh⟩
    · cases ht : Clock.isLess Clock.zero (Clock.sub deadline world.now) with
      | false => exact .inl ⟨_, _, .late hc hh ht⟩
      | true => exact .inr ⟨_, _, _, hc, hh, ht⟩

/-! ### A chain of hops -/

variable (gateway origin deadline limit sourceId?)

/-- The exchange that starts at a hop in a world with some redirects left sends these requests, ends so, and leaves this
world. -/
inductive Course : Nat → Hop → World τ → List (Request τ) → Except Failure Response → World τ → Prop
  | unsent {left : Nat} {hop : Hop} {world : World τ} {failure : Failure} {files : FileSystem}
      (h : Unsent gateway origin deadline limit sourceId? hop world failure files) :
      Course left hop world [] (.error failure) { world with files }
  | lost {left : Nat} {hop : Hop} {world : World τ} {confined : Hop} {headers : Headers} {files : FileSystem}
      {failure : Failure} (sends : Sends gateway origin deadline sourceId? hop world confined headers files)
      (h : (arrival limit (world.replyAt 0) world.now).1 = .error failure) :
      Course left hop world [confined.request headers (Clock.sub deadline world.now) false] (.error failure)
        (world.after (confined.request headers (Clock.sub deadline world.now) false) files
          (arrival limit (world.replyAt 0) world.now).2)
  /-- The reply sends the client nowhere else. -/
  | answered {left : Nat} {hop : Hop} {world : World τ} {confined : Hop} {headers : Headers} {files : FileSystem}
      (sends : Sends gateway origin deadline sourceId? hop world confined headers files)
      (arrives : (arrival limit (world.replyAt 0) world.now).1 = .ok ()) (h : (world.replyAt 0).location? = none) :
      Course left hop world [confined.request headers (Clock.sub deadline world.now) true]
        ((readFrom deadline limit (world.replyAt 0).chunks (arrival limit (world.replyAt 0) world.now).2).1.bind
          (answerOf (world.replyAt 0) confined.url))
        (world.after (confined.request headers (Clock.sub deadline world.now) true) files
          (readFrom deadline limit (world.replyAt 0).chunks (arrival limit (world.replyAt 0) world.now).2).2)
  /-- There are no redirects left. -/
  | exhausted {hop : Hop} {world : World τ} {confined : Hop} {headers : Headers} {files : FileSystem}
      {location : String} (sends : Sends gateway origin deadline sourceId? hop world confined headers files)
      (arrives : (arrival limit (world.replyAt 0) world.now).1 = .ok ())
      (h : (world.replyAt 0).location? = some location) :
      Course 0 hop world [confined.request headers (Clock.sub deadline world.now) true]
        (.error (.upstream (.redirects gateway.config.maxRedirects)))
        (world.after (confined.request headers (Clock.sub deadline world.now) true) files
          (arrival limit (world.replyAt 0) world.now).2)
  /-- The reply points to no URL. -/
  | astray {left : Nat} {hop : Hop} {world : World τ} {confined : Hop} {headers : Headers} {files : FileSystem}
      {location : String} {fault : Fault} (sends : Sends gateway origin deadline sourceId? hop world confined headers files)
      (arrives : (arrival limit (world.replyAt 0) world.now).1 = .ok ())
      (hl : (world.replyAt 0).location? = some location) (h : Url.join confined.url location = .error fault) :
      Course (left + 1) hop world [confined.request headers (Clock.sub deadline world.now) true] (.error (.fault fault))
        (world.after (confined.request headers (Clock.sub deadline world.now) true) files
          (arrival limit (world.replyAt 0) world.now).2)
  /-- The reply points to a URL that may not be fetched. -/
  | refused {left : Nat} {hop : Hop} {world : World τ} {confined : Hop} {headers : Headers} {files : FileSystem}
      {location url : String} {failure : Failure}
      (sends : Sends gateway origin deadline sourceId? hop world confined headers files)
      (arrives : (arrival limit (world.replyAt 0) world.now).1 = .ok ())
      (hl : (world.replyAt 0).location? = some location) (hj : Url.join confined.url location = .ok url)
      (h : checkDestination gateway.config (world.resolverAt gateway 1) url = .error failure) :
      Course (left + 1) hop world [confined.request headers (Clock.sub deadline world.now) true] (.error failure)
        (world.after (confined.request headers (Clock.sub deadline world.now) true) files
          (arrival limit (world.replyAt 0) world.now).2)
  /-- The reply points to the next hop. -/
  | onward {left : Nat} {hop : Hop} {world world' : World τ} {confined : Hop} {headers : Headers} {files : FileSystem}
      {location url : String} {sent : List (Request τ)} {result : Except Failure Response}
      (sends : Sends gateway origin deadline sourceId? hop world confined headers files)
      (arrives : (arrival limit (world.replyAt 0) world.now).1 = .ok ())
      (hl : (world.replyAt 0).location? = some location) (hj : Url.join confined.url location = .ok url)
      (hc : checkDestination gateway.config (world.resolverAt gateway 1) url = .ok ())
      (rest : Course left (confined.next (world.replyAt 0).status url)
        (world.after (confined.request headers (Clock.sub deadline world.now) true) files
          (arrival limit (world.replyAt 0) world.now).2) sent result world') :
      Course (left + 1) hop world (confined.request headers (Clock.sub deadline world.now) true :: sent) result world'

variable {gateway origin deadline limit sourceId?}

/-- A hop ends the exchange, however many redirects are left, or its reply points elsewhere. -/
private theorem visit_cases (hop : Hop) (world : World τ) :
    (∃ sent result world', outcome (gateway.visit origin deadline limit sourceId? hop) world =
        (result.map .inl, world') ∧
      ∀ left, Course gateway origin deadline limit sourceId? left hop world sent result world') ∨
    ∃ confined headers files location, Sends gateway origin deadline sourceId? hop world confined headers files ∧
      (arrival limit (world.replyAt 0) world.now).1 = .ok () ∧ (world.replyAt 0).location? = some location ∧
      outcome (gateway.visit origin deadline limit sourceId? hop) world =
        (.ok (.inr (confined, (world.replyAt 0).status, location)),
          world.after (confined.request headers (Clock.sub deadline world.now) true) files
            (arrival limit (world.replyAt 0) world.now).2) := by
  rcases @unsent_or_sends τ _ gateway origin deadline limit sourceId? hop world with
    ⟨failure, files, unsent⟩ | ⟨confined, headers, files, sends⟩
  · exact .inl ⟨_, .error failure, _, outcome_visit_unsent unsent, fun _ => .unsent unsent⟩
  cases ha : (arrival limit (world.replyAt 0) world.now).1 with
  | error failure => exact .inl ⟨_, .error failure, _, outcome_visit_lost sends ha, fun _ => .lost sends ha⟩
  | ok _ =>
    cases hl : (world.replyAt 0).location? with
    | none => exact .inl ⟨_, _, _, outcome_visit_answered sends ha hl, fun _ => .answered sends ha hl⟩
    | some location =>
      exact .inr ⟨confined, headers, files, location, sends, rfl, rfl, outcome_visit_redirected sends ha hl⟩

theorem course_of_exchange (left : Nat) (hop : Hop) (world : World τ) :
    ∃ sent, Course gateway origin deadline limit sourceId? left hop world sent
      (outcome (gateway.exchange origin deadline limit sourceId? left hop) world).1
      (outcome (gateway.exchange origin deadline limit sourceId? left hop) world).2 := by
  -- on the redirects that are left; a hop that ends the exchange does so whatever their number
  induction left generalizing hop world with
  | zero =>
    rw [exchange, outcome_bind]
    rcases @visit_cases τ _ gateway origin deadline limit sourceId? hop world with
      ⟨sent, result, world', hv, course⟩ | ⟨confined, headers, files, location, sends, ha, hl, hv⟩
    · rw [hv]
      cases result <;> exact ⟨sent, course 0⟩
    · rw [hv]
      exact ⟨_, .exhausted sends ha hl⟩
  | succ left ih =>
    rw [exchange, outcome_bind]
    rcases @visit_cases τ _ gateway origin deadline limit sourceId? hop world with
      ⟨sent, result, world', hv, course⟩ | ⟨confined, headers, files, location, sends, ha, hl, hv⟩
    · rw [hv]
      cases result <;> exact ⟨sent, course (left + 1)⟩
    · rw [hv]
      simp only [redirect, outcome_bind, outcome_ofFault, outcome_approve, outcome_pure]
      cases hj : Url.join confined.url location with
      | error fault => exact ⟨_, .astray sends ha hl hj⟩
      | ok url =>
        simp only [mapError_ok, World.resolverAt_after]
        cases hc : checkDestination gateway.config (world.resolverAt gateway (0 + 1)) url with
        | error failure => exact ⟨_, .refused sends ha hl hj hc⟩
        | ok _ =>
          obtain ⟨sent, rest⟩ := ih (confined.next (world.replyAt 0).status url)
            (world.after (confined.request headers (Clock.sub deadline world.now) true) files
              (arrival limit (world.replyAt 0) world.now).2)
          exact ⟨_, .onward sends ha hl hj hc rest⟩

theorem Course.requests_eq {left : Nat} {hop : Hop} {world world' : World τ} {sent : List (Request τ)}
    {result : Except Failure Response}
    (course : Course gateway origin deadline limit sourceId? left hop world sent result world') :
    world'.requests = world.requests ++ sent := by
  induction course with
  | unsent => simp
  | onward _ _ _ _ _ _ ih => rw [ih]; simp
  | _ => rfl

/-- An exchange that is answered is so by its last reply, and ends when the body of that has been read. -/
theorem Course.exists_answer {left : Nat} {hop : Hop} {world world' : World τ} {sent : List (Request τ)}
    {response : Response}
    (course : Course gateway origin deadline limit sourceId? left hop world sent (.ok response) world') :
    ∃ k url body, k + 1 = sent.length ∧
      (readFrom deadline limit (world.replyAt k).chunks (world.timeAt (k + 1))).1 = .ok body ∧
      answerOf (world.replyAt k) url body = .ok response ∧
      world'.now = (readFrom deadline limit (world.replyAt k).chunks (world.timeAt (k + 1))).2 := by
  generalize hresult : Except.ok response = result at course ⊢
  induction course with
  | unsent | lost | exhausted | astray | refused => cases hresult
  | @answered _ _ world confined _ _ sends ha hl =>
    rw [time_of_arrival] at hresult ⊢
    cases hread : (readFrom deadline limit (world.replyAt 0).chunks (lapse world.now (world.replyAt 0).cost)).1 with
    | error failure =>
      rw [hread] at hresult
      cases hresult
    | ok body =>
      exact ⟨0, confined.url, body, rfl, hread, rfl, rfl⟩
  | onward sends ha hl hj hc rest ih =>
    obtain ⟨k, url, body, hk, hread, hanswer, hend⟩ := ih hresult
    rw [time_of_arrival, World.timeAt_after, World.replyAt_after] at hread hend
    rw [World.replyAt_after] at hanswer
    exact ⟨k + 1, url, body, by rw [List.length_cons, hk], hread, hanswer, hend⟩

/-- What holds of the first request of every course, and of a request whenever it holds in the course from the next hop
on, holds of all requests. -/
theorem Course.request_induction {P : Hop → World τ → List (Request τ) → Nat → Request τ → Prop}
    (first : ∀ {hop world confined headers files}, Sends gateway origin deadline sourceId? hop world confined headers files →
      ∀ closed rest, P hop world (confined.request headers (Clock.sub deadline world.now) closed :: rest) 0
        (confined.request headers (Clock.sub deadline world.now) closed))
    (further : ∀ {hop world confined headers files location url},
      Sends gateway origin deadline sourceId? hop world confined headers files →
      (world.replyAt 0).location? = some location → Url.join confined.url location = .ok url →
      checkDestination gateway.config (world.resolverAt gateway 1) url = .ok () →
      ∀ now rest k request,
        P (confined.next (world.replyAt 0).status url)
          (world.after (confined.request headers (Clock.sub deadline world.now) true) files now) rest k request →
        P hop world (confined.request headers (Clock.sub deadline world.now) true :: rest) (k + 1) request)
    {left : Nat} {hop : Hop} {world world' : World τ} {sent : List (Request τ)} {result : Except Failure Response}
    (course : Course gateway origin deadline limit sourceId? left hop world sent result world') {k : Nat}
    {request : Request τ} (hk : sent[k]? = some request) : P hop world sent k request := by
  induction course generalizing k with
  | unsent => simp at hk
  | onward sends _ hl hj hc _ ih =>
    -- only the first request is that of this hop, the others are those of the course from the next hop on
    cases k with
    | zero =>
      obtain rfl := by simpa using hk
      exact first sends true _
    | succ k => exact further sends hl hj hc _ _ k request (ih (by simpa using hk))
  | lost sends | answered sends | exhausted sends | astray sends | refused sends =>
    obtain ⟨rfl, rfl⟩ := by simpa [List.getElem?_singleton] using hk
    exact first sends _ _

/-! ### A fetch -/

/-- The hop that a fetch starts at. -/
def firstHop (directive : Directive) : Hop :=
  ⟨methodOf directive, directive.url, directive.headers, directive.dispatchBody?⟩

/-- A fetch ends before its exchange, for its destination is refused or something that it needs cannot be read. -/
inductive Halted (gateway : Gateway) (directive : Directive) (limit : Duration) (world : World τ) : Failure → Prop
  | refused {failure : Failure}
      (h : checkDestination gateway.config (world.resolverAt gateway 0) directive.url = .error failure) :
      Halted gateway directive limit world failure
  | unbounded (hc : checkDestination gateway.config (world.resolverAt gateway 0) directive.url = .ok ())
      (h : (Clock.span? limit : Option τ) = none) : Halted gateway directive limit world (.fault .overflow)
  | unreadable {fault : Fault}
      (hc : checkDestination gateway.config (world.resolverAt gateway 0) directive.url = .ok ())
      (h : authorityOf directive.url = .error fault) : Halted gateway directive limit world (.fault fault)

/-- What comes of a fetch whose exchange ends so: its log has one more line unless the failure is of no kind. -/
def logged (directive : Directive) (result : Except Failure Response) (world : World τ) : World τ :=
  match result with
  | .ok response =>
    { world with log := world.log ++ [.fetched (methodOf directive) directive.url response.status] }
  | .error failure => match failure.kind? with
    | some kind => { world with log := world.log ++ [.failed (methodOf directive) directive.url kind] }
    | none => world

omit [Clock τ] in
/-- Nothing but the log is touched. -/
theorem exists_log (directive : Directive) (result : Except Failure Response) (world : World τ) :
    ∃ log, logged directive result world = { world with log } := by
  unfold logged
  split
  · exact ⟨_, rfl⟩
  · split
    · exact ⟨_, rfl⟩
    · exact ⟨world.log, rfl⟩

omit [Clock τ] in
@[simp] theorem requests_logged (directive : Directive) (result : Except Failure Response) (world : World τ) :
    (logged directive result world).requests = world.requests := by
  obtain ⟨log, hlogged⟩ := exists_log directive result world
  rw [hlogged]

omit [Clock τ] in
@[simp] theorem now_logged (directive : Directive) (result : Except Failure Response) (world : World τ) :
    (logged directive result world).now = world.now := by
  obtain ⟨log, hlogged⟩ := exists_log directive result world
  rw [hlogged]

private theorem outcome_fetch (gateway : Gateway) (directive : Directive) (timeout? : Option Duration)
    (sourceId? : Option String) (world : World τ) :
    outcome (gateway.fetch directive timeout? sourceId?) world =
      let attempted := outcome
        (gateway.attempt (methodOf directive) directive (gateway.limitFor timeout?) sourceId?) world
      (attempted.1.map fun response => { response with headers := gateway.responseHeaders response.headers },
        logged directive attempted.1 attempted.2) := by
  rw [fetch, outcome_bind, outcome_tryCatch]
  rcases outcome (gateway.attempt (methodOf directive) directive (gateway.limitFor timeout?) sourceId?) world with
    ⟨failure | response, attempted⟩
  · simp only [outcome_bind, logged]
    cases failure.kind? <;> rfl
  · rfl

theorem fetch_cases (gateway : Gateway) (directive : Directive) (timeout? : Option Duration)
    (sourceId? : Option String) (world : World τ) :
    (∃ failure, Halted gateway directive (gateway.limitFor timeout?) world failure ∧
      outcome (gateway.fetch directive timeout? sourceId?) world =
        (.error failure, logged directive (.error failure) world)) ∨
    ∃ span origin sent result world',
      checkDestination gateway.config (world.resolverAt gateway 0) directive.url = .ok () ∧
      Clock.span? (gateway.limitFor timeout?) = some span ∧ authorityOf directive.url = .ok origin ∧
      Course gateway origin (Clock.add world.now span) (gateway.limitFor timeout?) sourceId?
        gateway.config.maxRedirects.toNat (firstHop directive) world sent result world' ∧
      outcome (gateway.fetch directive timeout? sourceId?) world =
        (result.map fun response => { response with headers := gateway.responseHeaders response.headers },
          logged directive result world') := by
  rw [outcome_fetch, attempt]
  simp only [outcome_bind, outcome_approve, outcome_get, outcome_span, outcome_ofFault]
  cases hc : checkDestination gateway.config (world.resolverAt gateway 0) directive.url with
  | error failure => exact .inl ⟨failure, .refused hc, rfl⟩
  | ok _ =>
    cases hs : (Clock.span? (gateway.limitFor timeout?) : Option τ) with
    | none => exact .inl ⟨_, .unbounded hc hs, rfl⟩
    | some span =>
      cases ha : authorityOf directive.url with
      | error fault => exact .inl ⟨_, .unreadable hc ha, rfl⟩
      | ok origin =>
        obtain ⟨sent, h⟩ := @course_of_exchange τ _ gateway origin
          (Clock.add world.now span) (gateway.limitFor timeout?) sourceId? gateway.config.maxRedirects.toNat
          (firstHop directive) world
        exact .inr ⟨span, origin, sent, _, _, rfl, rfl, rfl, h, rfl⟩

end SiteReader.Gateway
