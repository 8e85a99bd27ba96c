import SiteReader.Proofs.Gateway.Redirects

/-!
# Requests with a body

A directive whose method is GET, in whatever letter case, has no body to send, and a redirect that turns a request into a GET
takes its body away.  So no GET of a fetch has a body (`Course.get_bodiless`), unless the directive has no method at all: then
it goes out as a GET with the body of the directive, and the body goes with it up to the first reply with the status 303
(`Course.body_of_no_method`).
-/

namespace SiteReader.Gateway

variable {τ : Type} [Clock τ]

/-- A request that is no GET with a body is not followed by one. -/
theorem Follows.get_bodiless {reply : Reply} {request next : Request τ} (h : Follows reply request next)
    (hrequest : request.method = "GET" → request.body? = none) (hnext : next.method = "GET") : next.body? = none := by
  by_cases ht : TurnsToGet reply.status request.method
  · exact (h.turned ht).2
  · obtain ⟨hmethod, hbody⟩ := h.kept ht
    rw [hbody]
    exact hrequest (hmethod.symm.trans hnext)

/-- After a GET comes a GET, without a body if the status asks for that, and with the same one if it does not. -/
theorem Follows.after_get {reply : Reply} {request next : Request τ} (h : Follows reply request next)
    (hget : request.method = "GET") : next.method = "GET" ∧ (reply.status = 303 → next.body? = none) ∧
      (reply.status ≠ 303 → next.body? = request.body?) := by
  by_cases hs : reply.status = 303
  · obtain ⟨hmethod, hbody⟩ := h.turned (.inl hs)
    exact ⟨hmethod, fun _ => hbody, fun hne => absurd hs hne⟩
  · have ht : ¬ TurnsToGet reply.status request.method := by
      rintro (heq | ⟨-, hpost⟩)
      · exact hs heq
      · exact absurd (hget.symm.trans hpost) (by decide)
    obtain ⟨hmethod, hbody⟩ := h.kept ht
    exact ⟨hmethod.trans hget, fun heq => absurd heq hs, fun _ => hbody⟩

theorem methodOf_of_ne {directive : Directive} (h : directive.method ≠ "") :
    methodOf directive = uppered directive.method := by
  rw [methodOf, if_neg (by simpa using h)]

/-- What a directive with a method starts with is no GET with a body. -/
theorem dispatchBody?_of_get {directive : Directive} (h : directive.method ≠ "") (hget : methodOf directive = "GET") :
    directive.dispatchBody? = none := by
  rw [methodOf_of_ne h] at hget
  exact if_pos (beq_iff_eq.mpr hget)

/-- A directive without a method counts as a GET, and its body is sent all the same. -/
theorem dispatchBody?_of_no_method {directive : Directive} (h : directive.method = "") :
    methodOf directive = "GET" ∧ directive.dispatchBody? = directive.body? := by
  have hget : uppered "GET" = "GET" := by decide
  have hempty : (uppered "" == "GET") = false := by decide
  constructor
  · rw [methodOf, h]
    exact hget
  · rw [Directive.dispatchBody?, Directive.isGet, h, hempty]
    rfl

variable {gateway : Gateway} {origin : List Char} {deadline : τ} {limit : Duration} {left : Nat}
  {sourceId? : Option String} {directive : Directive} {world world' : World τ} {sent : List (Request τ)}
  {result : Except Failure Response}

theorem Course.get_bodiless
    (course : Course gateway origin deadline limit sourceId? left (firstHop directive) world sent result world')
    (hmethod : directive.method ≠ "") {request : Request τ} (hr : request ∈ sent) (hget : request.method = "GET") :
    request.body? = none := by
  obtain ⟨k, hk⟩ := List.mem_iff_getElem?.mp hr
  refine forall_of_chain (P := fun _ request => request.method = "GET" → request.body? = none) ?_ ?_ hk hget
  · intro request h hget
    obtain ⟨-, hm, hb⟩ := course.first h
    rw [hb]
    exact dispatchBody?_of_get hmethod (hm.symm.trans hget)
  · intro k request next hk hn hrequest
    exact (course.follows hk hn).get_bodiless hrequest

theorem Course.body_of_no_method
    (course : Course gateway origin deadline limit sourceId? left (firstHop directive) world sent result world')
    (hmethod : directive.method = "") {k : Nat} {request : Request τ} (hk : sent[k]? = some request) :
    request.method = "GET" ∧ ((∃ j < k, (world.replyAt j).status = 303) → request.body? = none) ∧
      ((∀ j < k, (world.replyAt j).status ≠ 303) → request.body? = directive.body?) := by
  refine forall_of_chain (P := fun k request => request.method = "GET" ∧
    ((∃ j < k, (world.replyAt j).status = 303) → request.body? = none) ∧
    ((∀ j < k, (world.replyAt j).status ≠ 303) → request.body? = directive.body?)) ?_ ?_ hk
  · intro request h
    obtain ⟨-, hm, hb⟩ := course.first h
    obtain ⟨hget, hbody⟩ := dispatchBody?_of_no_method hmethod
    refine ⟨hm.trans hget, ?_, fun _ => hb.trans hbody⟩
    rintro ⟨j, hj, -⟩
    exact absurd hj (Nat.not_lt_zero j)
  · rintro k request next hk hn ⟨hget, hdropped, hkept⟩
    obtain ⟨hnext, hturned, hsame⟩ := (course.follows hk hn).after_get hget
    by_cases hs : (world.replyAt k).status = 303
    · exact ⟨hnext, fun _ => hturned hs, fun hall => absurd hs (hall k (Nat.lt_succ_self k))⟩
    · refine ⟨hnext, ?_, fun hall => (hsame hs).trans (hkept fun j hj => hall j (Nat.lt_succ_of_lt hj))⟩
      rintro ⟨j, hj, hstatus⟩
      have hne : j ≠ k := fun heq => hs (heq ▸ hstatus)
      exact (hsame hs).trans (hdropped ⟨j, by omega, hstatus⟩)

/-- No GET of a fetch has a body if the directive has a method.  If it has none, all requests are GETs, and each has the body
of the directive as long as no reply before it had the status 303. -/
theorem fetch_get_bodies (gateway : Gateway) (directive : Directive) (timeout? : Option Duration)
    (sourceId? : Option String) (world : World τ) :
    ∃ sent, (outcome (gateway.fetch directive timeout? sourceId?) world).2.requests = world.requests ++ sent ∧
      (directive.method ≠ "" → ∀ request ∈ sent, request.method = "GET" → request.body? = none) ∧
      (directive.method = "" → ∀ k request, sent[k]? = some request →
        request.method = "GET" ∧ ((∃ j < k, (world.replyAt j).status = 303) → request.body? = none) ∧
          ((∀ j < k, (world.replyAt j).status ≠ 303) → request.body? = directive.body?)) := by
  rcases fetch_cases gateway directive timeout? sourceId? world with
    ⟨failure, -, hf⟩ | ⟨span, origin, sent, result, world', -, -, -, course, hf⟩
  · exact ⟨[], by simp [hf], by simp, by simp⟩
  · refine ⟨sent, by rw [hf, requests_logged, course.requests_eq], ?_, ?_⟩
    · exact fun hmethod request hr hget => course.get_bodiless hmethod hr hget
    · exact fun hmethod k request hk => course.body_of_no_method hmethod hk

/-- A directive without a method goes out as a GET with a body. -/
theorem fetch_get_with_body :
    ∃ request ∈ (outcome ((Gateway.mk .standard (fun _ => .ok []) none).fetch
        ⟨"http://example.com/", "", [], some "q=1"⟩ none none)
        (World.start Double ⟨"/", []⟩ ⟨200, [], [], .whole 0, none⟩)).2.requests,
      request.method = "GET" ∧ request.body? = some "q=1" := by
  decide +kernel

end SiteReader.Gateway
