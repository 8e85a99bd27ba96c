import SiteReader.Proofs.Gateway.Exchange

/-!
# Requests go to approved destinations

Hosts may be looked up differently after each reply, so that a check made before a reply says nothing about a request
after it.  Each request of a fetch goes to a URL that passes the check as hosts are looked up between the reply before it
and the request itself, and the fetch ends at the first URL that does not (`fetch_requests_approved`).
-/

namespace SiteReader.Gateway

variable {τ : Type} [Clock τ]

/-- A reply arrives and sends the client from one URL to another. -/
def Reply.LeadsTo (τ : Type) [Clock τ] (reply : Reply) (base url : String) : Prop :=
  reply.Arrives τ ∧ ∃ location, reply.location? = some location ∧ Url.join base location = .ok url

theorem Reply.LeadsTo.join_eq {reply : Reply} {base url location : String} (h : reply.LeadsTo τ base url)
    (hl : reply.location? = some location) : Url.join base location = .ok url := by
  obtain ⟨-, _, hl', hj⟩ := h
  obtain rfl := Option.some.inj (hl.symm.trans hl')
  exact hj

variable {gateway : Gateway} {origin : List Char} {deadline : τ} {limit : Duration} {sourceId? : Option String}
  {left : Nat} {hop : Hop} {world world' : World τ} {sent : List (Request τ)} {result : Except Failure Response}

/-- When the first hop passes the check, so does every further one. -/
theorem Course.approved (course : Course gateway origin deadline limit sourceId? left hop world sent result world')
    (h : checkDestination gateway.config (world.resolverAt gateway 0) hop.url = .ok ()) {k : Nat} {request : Request τ}
    (hk : sent[k]? = some request) :
    checkDestination gateway.config (world.resolverAt gateway k) request.url = .ok () ∧
      request.followsRedirects = false := by
  refine course.request_induction (P := fun hop world _ k request =>
    checkDestination gateway.config (world.resolverAt gateway 0) hop.url = .ok () →
      checkDestination gateway.config (world.resolverAt gateway k) request.url = .ok () ∧
        request.followsRedirects = false) ?_ ?_ hk h
  · intro hop world confined headers files sends closed rest h
    rw [← Hop.confined_url sends.confined_eq] at h
    exact ⟨h, rfl⟩
  · intro hop world confined headers files location url sends hl hj hc now rest k request ih _
    simp only [World.resolverAt_after, Hop.next_url] at ih
    exact ih hc

/-- A redirect to a URL that does not pass the check ends the exchange, unless no redirects were left anyway. -/
theorem Course.refused_redirect
    (course : Course gateway origin deadline limit sourceId? left hop world sent result world') {k : Nat}
    {request : Request τ} {url : String} {failure : Failure} (hk : sent[k]? = some request) (hlt : k < left)
    (hr : (world.replyAt k).LeadsTo τ request.url url)
    (h : checkDestination gateway.config (world.resolverAt gateway (k + 1)) url = .error failure) :
    sent.length = k + 1 ∧ result = .error failure := by
  -- the request is the last one of its course in all cases but `onward`
  induction course generalizing k with
  | unsent => simp at hk
  | lost sends ha =>
    obtain ⟨rfl, rfl⟩ := by simpa [List.getElem?_singleton] using hk
    rw [arrival_eq_ok_iff.mpr hr.1] at ha
    cases ha
  | answered sends _ hl =>
    obtain ⟨rfl, rfl⟩ := by simpa [List.getElem?_singleton] using hk
    obtain ⟨-, _, hl', -⟩ := hr
    rw [hl] at hl'
    cases hl'
  | exhausted => omega
  | astray sends _ hl hj =>
    obtain ⟨rfl, rfl⟩ := by simpa [List.getElem?_singleton] using hk
    cases hj.symm.trans (hr.join_eq hl)
  | refused sends _ hl hj hc =>
    obtain ⟨rfl, rfl⟩ := by simpa [List.getElem?_singleton] using hk
    obtain rfl := Except.ok.inj (hj.symm.trans (hr.join_eq hl))
    exact ⟨rfl, by rw [← Except.error.inj (hc.symm.trans h)]⟩
  | onward sends _ hl hj hc _ ih =>
    cases k with
    | zero =>
      obtain rfl := by simpa using hk
      obtain rfl := Except.ok.inj (hj.symm.trans (hr.join_eq hl))
      cases hc.symm.trans h
    | succ k =>
      obtain ⟨hlen, hres⟩ := ih (by simpa using hk) (by omega) (by simpa using hr) (by simpa using h)
      exact ⟨by rw [List.length_cons, hlen], hres⟩

/-- Each request goes, without leave to follow redirects, to a URL that passes the check as hosts are looked up from the
reply before it on.  A first URL that fails the check means no request at all, and a redirect within the limit to a URL
that fails it means no further one; either way the fetch ends with what the check says. -/
theorem fetch_requests_approved (gateway : Gateway) (directive : Directive) (timeout? : Option Duration)
    (sourceId? : Option String) (world : World τ) :
    ∃ sent result world', outcome (gateway.fetch directive timeout? sourceId?) world = (result, world') ∧
      world'.requests = world.requests ++ sent ∧
      (∀ k request, sent[k]? = some request →
        checkDestination gateway.config (world.resolverAt gateway k) request.url = .ok () ∧
          request.followsRedirects = false) ∧
      (∀ failure, checkDestination gateway.config (world.resolverAt gateway 0) directive.url = .error failure →
        sent = [] ∧ result = .error failure) ∧
      ∀ k request url failure, sent[k]? = some request → k < gateway.config.maxRedirects.toNat →
        (world.replyAt k).LeadsTo τ request.url url →
        checkDestination gateway.config (world.resolverAt gateway (k + 1)) url = .error failure →
        sent.length = k + 1 ∧ result = .error failure := by
  rcases fetch_cases gateway directive timeout? sourceId? world with
    ⟨failure, halted, hf⟩ | ⟨span, origin, sent, result, world', hc, -, -, course, hf⟩
  · refine ⟨[], _, _, hf, by simp, by simp, ?_, by simp⟩
    intro failure' h
    cases halted with
    | refused h' => exact ⟨rfl, by rw [Except.error.inj (h'.symm.trans h)]⟩
    | unbounded hc | unreadable hc => cases hc.symm.trans h
  · refine ⟨sent, _, _, hf, by rw [requests_logged, course.requests_eq], ?_, ?_, ?_⟩
    · exact fun k request hk => course.approved hc hk
    · exact fun failure h => by cases hc.symm.trans h
    · intro k request url failure hk hlt hr h
      obtain ⟨hlen, rfl⟩ := course.refused_redirect hk hlt hr h
      exact ⟨hlen, rfl⟩

end SiteReader.Gateway
