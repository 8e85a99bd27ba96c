import Mathlib.Logic.Relation
import SiteReader.Proofs.Gateway.Approval
import SiteReader.Proofs.Number.Order

/-!
# Chains of redirects

The requests of a fetch make a chain (`RedirectChain`): each one but the first is what the reply before it asks for, with
the method and the body that its status asks for, and less and less time is left.  What each request hands on to the next
one holds along the whole chain (`forall_of_chain`).  A redirect leads from one stage of an exchange to the next
(`Redirects`), so that an exchange goes on as it would have begun there (`Redirects.outcome_exchange`); at the stage where a
request goes out, the replies to all requests before it are closed (`Course.exists_stage`).
-/

namespace SiteReader.Gateway

variable {τ : Type} [Clock τ]

/-! ### One request after another -/

/-- Whether the request that follows on such a reply is a GET without body. -/
def TurnsToGet (status : Int) (method : String) : Prop :=
  status = 303 ∨ (status = 301 ∨ status = 302) ∧ method = "POST"

theorem Hop.next_of_turns {hop : Hop} {status : Int} (h : TurnsToGet status hop.method) (url : String) :
    (hop.next status url).method = "GET" ∧ (hop.next status url).body? = none := by
  unfold Hop.next
  rw [if_pos (by simpa [TurnsToGet] using h)]
  exact ⟨rfl, rfl⟩

theorem Hop.next_of_not_turns {hop : Hop} {status : Int} (h : ¬ TurnsToGet status hop.method) (url : String) :
    (hop.next status url).method = hop.method ∧ (hop.next status url).body? = hop.body? := by
  unfold Hop.next
  rw [if_neg (by simpa [TurnsToGet] using h)]
  exact ⟨rfl, rfl⟩

theorem Hop.confined_method {hop confined : Hop} {origin : List Char} (h : hop.confined origin = .ok confined) :
    confined.method = hop.method ∧ confined.body? = hop.body? := by
  rcases Hop.confined_cases h with ⟨-, rfl⟩ | ⟨_, -, -, rfl⟩ <;> exact ⟨rfl, rfl⟩

omit [Clock τ] in
theorem location?_eq_some {reply : Reply} {location : String} (h : reply.location? = some location) :
    reply.status ∈ redirectStatuses ∧ reply.headers.distinct.value? "Location" = some location ∧ location ≠ "" := by
  unfold Reply.location? at h
  split at h
  next hs =>
    split at h
    next found hv =>
      split at h
      next => cases h
      next hne =>
        obtain rfl := Option.some.inj h
        refine ⟨by simpa using hs, hv, ?_⟩
        rintro rfl
        exact hne rfl
    next => cases h
  next => cases h

/-- A request is what the reply to the one before it asks for. -/
structure Follows (reply : Reply) (request next : Request τ) : Prop where
  arrives : reply.Arrives τ
  status : reply.status ∈ redirectStatuses
  url : ∃ location, location ≠ "" ∧ reply.headers.distinct.value? "Location" = some location ∧
    Url.join request.url location = .ok next.url
  turned : TurnsToGet reply.status request.method → next.method = "GET" ∧ next.body? = none
  kept : ¬ TurnsToGet reply.status request.method → next.method = request.method ∧ next.body? = request.body?

/-- A GET without body stays one. -/
theorem Follows.stays_get {reply : Reply} {request next : Request τ} (h : Follows reply request next)
    (hm : request.method = "GET") (hb : request.body? = none) : next.method = "GET" ∧ next.body? = none := by
  by_cases ht : TurnsToGet reply.status request.method
  · exact h.turned ht
  · obtain ⟨hmethod, hbody⟩ := h.kept ht
    exact ⟨hmethod.trans hm, hbody.trans hb⟩

omit [Clock τ] in
/-- What holds of the first request, and is handed on from each request to the next one, holds of all. -/
theorem forall_of_chain {sent : List (Request τ)} {P : Nat → Request τ → Prop}
    (first : ∀ request, sent[0]? = some request → P 0 request)
    (further : ∀ k request next, sent[k]? = some request → sent[k + 1]? = some next → P k request → P (k + 1) next)
    {k : Nat} {request : Request τ} (hk : sent[k]? = some request) : P k request := by
  induction k generalizing request with
  | zero => exact first request hk
  | succ k ih =>
    have hlt : k < sent.length := by
      have := (List.getElem?_eq_some_iff.mp hk).1
      omega
    have hbefore := List.getElem?_eq_getElem hlt
    exact further k _ request hbefore hk (ih hbefore)

variable {gateway : Gateway} {origin : List Char} {deadline : τ} {limit : Duration} {left : Nat}
  {sourceId? : Option String} {hop : Hop} {world world' : World τ} {sent : List (Request τ)}
  {result : Except Failure Response}

theorem Course.length_le (course : Course gateway origin deadline limit sourceId? left hop world sent result world') :
    sent.length ≤ left + 1 := by
  induction course with
  | unsent => exact Nat.zero_le _
  | lost | answered | exhausted | astray | refused => simp
  | onward _ _ _ _ _ _ ih =>
    rw [List.length_cons]
    exact Nat.succ_le_succ ih

/-- The first request is that of the first hop. -/
theorem Course.first (course : Course gateway origin deadline limit sourceId? left hop world sent result world')
    {request : Request τ} (h : sent[0]? = some request) :
    request.url = hop.url ∧ request.method = hop.method ∧ request.body? = hop.body? := by
  have hconfined {world : World τ} {hop confined : Hop} {headers : Headers} {files : FileSystem}
      (sends : Sends gateway origin deadline sourceId? hop world confined headers files) :
      confined.url = hop.url ∧ confined.method = hop.method ∧ confined.body? = hop.body? :=
    ⟨Hop.confined_url sends.confined_eq, Hop.confined_method sends.confined_eq⟩
  cases course with
  | unsent => cases h
  | lost sends | answered sends | exhausted sends | astray sends | refused sends | onward sends =>
    obtain rfl := Option.some.inj h
    exact hconfined sends

theorem Course.follows (course : Course gateway origin deadline limit sourceId? left hop world sent result world')
    {k : Nat} {request next : Request τ} (hk : sent[k]? = some request) (hn : sent[k + 1]? = some next) :
    Follows (world.replyAt k) request next := by
  induction course generalizing k with
  | unsent | lost | answered | exhausted | astray | refused => simp at hn
  | onward sends ha hl hj hc rest ih =>
    cases k with
    | zero =>
      obtain rfl := by simpa using hk
      obtain ⟨hurl, hmethod, hbody⟩ := rest.first (by simpa using hn)
      obtain ⟨hstatus, hvalue, hne⟩ := location?_eq_some hl
      refine ⟨arrival_eq_ok_iff.mp ha, hstatus, ⟨_, hne, hvalue, ?_⟩, fun ht => ?_, fun ht => ?_⟩
      · rw [hurl, Hop.next_url]
        exact hj
      · rw [hmethod, hbody]
        exact Hop.next_of_turns ht _
      · rw [hmethod, hbody]
        exact Hop.next_of_not_turns ht _
    | succ k =>
      have := ih (by simpa using hk) (by simpa using hn)
      rwa [World.replyAt_after] at this

/-- Each request is given the time that is left when it goes out, which is more than none. -/
theorem Course.timeout_eq (course : Course gateway origin deadline limit sourceId? left hop world sent result world')
    {k : Nat} {request : Request τ} (hk : sent[k]? = some request) :
    request.timeout = Clock.sub deadline (world.timeAt k) ∧ Clock.isLess Clock.zero request.timeout = true := by
  induction course generalizing k with
  | unsent => simp at hk
  | lost sends | answered sends | exhausted sends | astray sends | refused sends =>
    obtain ⟨rfl, rfl⟩ := by simpa [List.getElem?_singleton] using hk
    exact ⟨rfl, sends.inTime⟩
  | onward sends _ _ _ _ _ ih =>
    cases k with
    | zero =>
      obtain rfl := by simpa using hk
      exact ⟨rfl, sends.inTime⟩
    | succ k =>
      have := ih (by simpa using hk)
      rwa [time_of_arrival, World.timeAt_after] at this

/-- Every reply that arrives has been closed in the end. -/
theorem Course.closed (course : Course gateway origin deadline limit sourceId? left hop world sent result world')
    {k : Nat} {request : Request τ} (hk : sent[k]? = some request) (ha : (world.replyAt k).Arrives τ) :
    request.closed = true := by
  induction course generalizing k with
  | unsent => simp at hk
  | lost sends h =>
    obtain ⟨rfl, rfl⟩ := by simpa [List.getElem?_singleton] using hk
    cases h.symm.trans (arrival_eq_ok_iff.mpr ha)
  | answered | exhausted | astray | refused =>
    obtain ⟨rfl, rfl⟩ := by simpa [List.getElem?_singleton] using hk
    rfl
  | onward _ _ _ _ _ _ ih =>
    cases k with
    | zero =>
      obtain rfl := by simpa using hk
      rfl
    | succ k => exact ih (by simpa using hk) (by simpa using ha)

/-! ### Stages -/

/-- An exchange with some redirects left that has come to a hop. -/
structure Stage (τ : Type) where
  left : Nat
  hop : Hop
  world : World τ

variable (gateway origin deadline limit sourceId?)

/-- A redirect leads from one stage of an exchange to the next: a request goes out, its reply asks for another one, and the
new destination is approved. -/
def Redirects (stage next : Stage τ) : Prop :=
  ∃ confined status location visited, stage.left = next.left + 1 ∧
    outcome (gateway.visit origin deadline limit sourceId? stage.hop) stage.world =
      (.ok (.inr (confined, status, location)), visited) ∧
    outcome (gateway.redirect confined status location) visited = (.ok next.hop, next.world)

/-- An exchange comes to a stage at which a request goes out. -/
def GoesOut (start stage : Stage τ) (request : Request τ) : Prop :=
  Relation.ReflTransGen (Redirects gateway origin deadline limit sourceId?) start stage ∧
    (outcome (gateway.visit origin deadline limit sourceId? stage.hop) stage.world).2.requests =
      stage.world.requests ++ [request]

variable {gateway origin deadline limit sourceId?}

/-- After a redirect an exchange goes on as it would have begun there. -/
theorem Redirects.outcome_exchange {stage next : Stage τ}
    (h : Redirects gateway origin deadline limit sourceId? stage next) :
    outcome (gateway.exchange origin deadline limit sourceId? stage.left stage.hop) stage.world =
      outcome (gateway.exchange origin deadline limit sourceId? next.left next.hop) next.world := by
  obtain ⟨confined, status, location, visited, hleft, hvisit, hredirect⟩ := h
  rw [hleft, exchange, outcome_bind, hvisit]
  simp only [outcome_bind, hredirect]

/-- However many redirects were followed, an exchange ends as it would from the stage they led to. -/
theorem outcome_exchange_of_stages {start stage : Stage τ}
    (h : Relation.ReflTransGen (Redirects gateway origin deadline limit sourceId?) start stage) :
    outcome (gateway.exchange origin deadline limit sourceId? start.left start.hop) start.world =
      outcome (gateway.exchange origin deadline limit sourceId? stage.left stage.hop) stage.world := by
  induction h with
  | refl => rfl
  | tail _ hstep ih => exact ih.trans hstep.outcome_exchange

/-- The hop of a course is where its first request goes out. -/
private theorem requests_visit (course : Course gateway origin deadline limit sourceId? left hop world sent result world')
    {request : Request τ} (h : sent[0]? = some request) :
    (outcome (gateway.visit origin deadline limit sourceId? hop) world).2.requests = world.requests ++ [request] := by
  cases course with
  | unsent => cases h
  | lost sends ha =>
    obtain rfl := Option.some.inj h
    rw [outcome_visit_lost sends ha, World.requests_after]
  | answered sends ha hl =>
    obtain rfl := Option.some.inj h
    rw [outcome_visit_answered sends ha hl, World.requests_after]
  | exhausted sends ha hl | astray sends ha hl | refused sends ha hl | onward sends ha hl =>
    obtain rfl := Option.some.inj h
    rw [outcome_visit_redirected sends ha hl, World.requests_after]

/-- Each request goes out at a stage where the ones before it have been sent and closed. -/
theorem Course.exists_stage (course : Course gateway origin deadline limit sourceId? left hop world sent result world')
    {k : Nat} {request : Request τ} (hk : sent[k]? = some request) :
    ∃ stage, GoesOut gateway origin deadline limit sourceId? ⟨left, hop, world⟩ stage request ∧
      stage.world.requests = world.requests ++ sent.take k ∧ ∀ earlier ∈ sent.take k, earlier.closed = true := by
  induction k generalizing left hop world sent request with
  | zero =>
    refine ⟨⟨left, hop, world⟩, ⟨.refl, requests_visit course hk⟩, ?_, ?_⟩
    · simp
    · simp
  | succ k ih =>
    cases course with
    | unsent | lost | answered | exhausted | astray | refused => simp at hk
    | onward sends ha hl hj hc rest =>
      obtain ⟨stage, ⟨hstages, hvisit⟩, hrequests, hclosed⟩ := ih rest (by simpa using hk)
      refine ⟨stage, ⟨.head ⟨_, _, _, _, rfl, outcome_visit_redirected sends ha hl, ?_⟩ hstages, hvisit⟩, ?_, ?_⟩
      · simp only [redirect, outcome_bind, outcome_ofFault, hj, mapError_ok, outcome_approve, World.resolverAt_after, hc,
          outcome_pure]
      · rw [hrequests, World.requests_after, List.take_succ_cons, List.append_assoc, List.singleton_append]
      · rw [List.take_succ_cons]
        exact List.forall_mem_cons.mpr ⟨rfl, hclosed⟩

/-! ### A fetch -/

/-- The requests of a fetch make a chain of redirects. -/
structure RedirectChain (gateway : Gateway) (directive : Directive) (world : World τ) (sent : List (Request τ)) : Prop where
  length_le : (sent.length : Int) ≤ max 0 gateway.config.maxRedirects + 1
  first : ∀ request, sent[0]? = some request → request.url = directive.url ∧ request.method = methodOf directive ∧
    request.body? = directive.dispatchBody?
  follows : ∀ k request next, sent[k]? = some request → sent[k + 1]? = some next →
    Follows (world.replyAt k) request next
  /-- After a redirect that asks for a GET all further requests are GETs without body. -/
  stays_get : ∀ k request, sent[k]? = some request → TurnsToGet (world.replyAt k).status request.method →
    ∀ j later, sent[k + 1 + j]? = some later → later.method = "GET" ∧ later.body? = none
  timeout_pos : ∀ request ∈ sent, Clock.isLess Clock.zero request.timeout = true
  /-- While the clock does not go backwards the time that is left does not grow. -/
  timeout_le : ∀ k request next, sent[k]? = some request → sent[k + 1]? = some next →
    Clock.isLess (world.timeAt (k + 1)) (world.timeAt k) = false → Clock.isLess request.timeout next.timeout = false
  closed : ∀ k request, sent[k]? = some request → (world.replyAt k).Arrives τ → request.closed = true

theorem redirectChain_nil (gateway : Gateway) (directive : Directive) (world : World τ) :
    RedirectChain gateway directive world [] where
  length_le := by
    rw [List.length_nil]
    omega
  first := nofun
  follows := nofun
  stays_get := nofun
  timeout_pos := nofun
  timeout_le := nofun
  closed := nofun

theorem stays_get_of_follows {reply : Nat → Reply}
    (follows : ∀ k request next, sent[k]? = some request → sent[k + 1]? = some next → Follows (reply k) request next)
    {k : Nat} {request : Request τ} (hk : sent[k]? = some request) (ht : TurnsToGet (reply k).status request.method)
    (j : Nat) {later : Request τ} (hj : sent[k + 1 + j]? = some later) : later.method = "GET" ∧ later.body? = none := by
  refine forall_of_chain (P := fun i next => k < i → next.method = "GET" ∧ next.body? = none) ?_ ?_ hj (by omega)
  · exact fun _ _ hlt => absurd hlt (Nat.not_lt_zero k)
  · intro i before next hi hn ih hlt
    rcases Nat.lt_or_eq_of_le (Nat.le_of_lt_succ hlt) with hlt | rfl
    · obtain ⟨hm, hb⟩ := ih hlt
      exact (follows i before next hi hn).stays_get hm hb
    · obtain rfl := Option.some.inj (hk.symm.trans hi)
      exact (follows k request next hk hn).turned ht

theorem Course.redirectChain {directive : Directive} {world world' : World Double} {sent : List (Request Double)}
    {deadline : Double} (course : Course gateway origin deadline limit sourceId? gateway.config.maxRedirects.toNat
      (firstHop directive) world sent result world') : RedirectChain gateway directive world sent where
  length_le := by
    have := course.length_le
    omega
  first _ h := course.first h
  follows _ _ _ hk hn := course.follows hk hn
  stays_get _ _ hk ht j _ hj := stays_get_of_follows (fun _ _ _ => course.follows) hk ht j hj
  timeout_pos request hr := by
    obtain ⟨k, hk⟩ := List.mem_iff_getElem?.mp hr
    exact (course.timeout_eq hk).2
  timeout_le k request next hk hn hclock := by
    rw [(course.timeout_eq hk).1, (course.timeout_eq hn).1]
    exact Double.isLess_sub hclock
  closed _ _ := course.closed

/-- The requests of every fetch make a chain of redirects that ends at the limit.  Each goes out at a stage of the exchange
where the replies to all requests before it are closed, and in the end each reply that arrived is. -/
theorem fetch_redirects (gateway : Gateway) (directive : Directive) (timeout? : Option Duration)
    (sourceId? : Option String) (world : World Double) :
    ∃ sent, (outcome (gateway.fetch directive timeout? sourceId?) world).2.requests = world.requests ++ sent ∧
      RedirectChain gateway directive world sent ∧
      ∀ k request, sent[k]? = some request → ∃ origin span stage,
        authorityOf directive.url = .ok origin ∧ Clock.span? (gateway.limitFor timeout?) = some span ∧
        GoesOut gateway origin (Clock.add world.now span) (gateway.limitFor timeout?) sourceId?
          ⟨gateway.config.maxRedirects.toNat, firstHop directive, world⟩ stage request ∧
        stage.world.requests = world.requests ++ sent.take k ∧ ∀ earlier ∈ sent.take k, earlier.closed = true := by
  rcases fetch_cases gateway directive timeout? sourceId? world with
    ⟨failure, -, hf⟩ | ⟨span, origin, sent, result, world', -, hs, ha, course, hf⟩
  · -- a fetch that is halted sends nothing
    exact ⟨[], by simp [hf], redirectChain_nil gateway directive world, by simp⟩
  · refine ⟨sent, by rw [hf, requests_logged, course.requests_eq], course.redirectChain, ?_⟩
    intro k request hk
    obtain ⟨stage, hout, hrequests, hclosed⟩ := course.exists_stage hk
    exact ⟨origin, span, stage, ha, hs, hout, hrequests, hclosed⟩

end SiteReader.Gateway
