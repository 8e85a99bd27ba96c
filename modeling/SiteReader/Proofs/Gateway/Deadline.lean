import SiteReader.Proofs.Gateway.Ending

/-!
# Deadlines

Every request of a fetch goes out before its deadline, and the clock is looked at after each part of the body.  So the body
of an answer is in by the deadline if it has any part (`Course.answered_in_time`).  An empty body has none: its reply may
have come in at any time later, and the fetch answers all the same (`fetch_in_time`).
-/

namespace SiteReader

/-- A duration that can be told and is not negative. -/
def Duration.IsCost (duration : Duration) : Prop :=
  ∃ n d, duration.seconds? = some (n, d) ∧ 0 ≤ n

namespace Gateway

variable {τ : Type} [Clock τ]

/-- The point in time at which the last part of a body has come in, if its first one is waited for from now on. -/
def Reply.bodyEnd (reply : Reply) (now : τ) : τ :=
  reply.chunks.foldl (fun now chunk => lapse now chunk.cost) now

/-- A body that is read to its end was not late after its last part, if it has one. -/
theorem isLess_of_readFrom {deadline : τ} {limit : Duration} {chunks : List Chunk} {now : τ} {bytes : ByteArray}
    (h : (readFrom deadline limit chunks now).1 = .ok bytes) (hne : chunks ≠ []) :
    Clock.isLess deadline (chunks.foldl (fun now chunk => lapse now chunk.cost) now) = false := by
  induction chunks generalizing now bytes with
  | nil => exact absurd rfl hne
  | cons chunk rest ih =>
    obtain ⟨hchunk, ⟨read, hread, -⟩, -⟩ := readFrom_cons h
    rw [List.foldl_cons]
    cases rest with
    | nil => exact hchunk
    | cons next rest => exact ih hread (by simp)

variable {gateway : Gateway} {origin : List Char} {deadline : τ} {limit : Duration} {sourceId? : Option String}
  {left : Nat} {hop : Hop} {world world' : World τ} {sent : List (Request τ)} {response : Response}

/-- Before every request of an exchange that is answered there is time left, and after the last part of the body the
deadline is not past. -/
theorem Course.answered_in_time
    (course : Course gateway origin deadline limit sourceId? left hop world sent (.ok response) world') :
    ∃ k, k + 1 = sent.length ∧ (∀ j ≤ k, Clock.isLess Clock.zero (Clock.sub deadline (world.timeAt j)) = true) ∧
      world'.now = (world.replyAt k).bodyEnd (world.timeAt (k + 1)) ∧
      ((world.replyAt k).chunks ≠ [] → Clock.isLess deadline world'.now = false) := by
  obtain ⟨k, url, body, hk, hread, -, hend⟩ := course.exists_answer
  refine ⟨k, hk, fun j hj => ?_, hend.trans (time_of_readFrom hread), fun hne => ?_⟩
  · obtain ⟨htime, hpos⟩ := course.timeout_eq (List.getElem?_eq_getElem (show j < sent.length by omega))
    rw [← htime]
    exact hpos
  · rw [hend, time_of_readFrom hread]
    exact isLess_of_readFrom hread hne

/-! ### Exact seconds -/

theorem span?_of_isCost {duration : Duration} (h : duration.IsCost) :
    ∃ span : Rat, Clock.span? duration = some span ∧ 0 ≤ span := by
  obtain ⟨n, d, hs, hn⟩ := h
  refine ⟨n / d, ?_, ?_⟩
  · simp [Clock.span?, hs]
  · exact div_nonneg (Int.cast_nonneg hn) (Nat.cast_nonneg d)

theorem le_lapse {duration : Duration} (h : duration.IsCost) (now : Rat) : now ≤ lapse now duration := by
  obtain ⟨span, hs, hspan⟩ := span?_of_isCost h
  have hlapse : lapse now duration = now + span := by
    unfold lapse
    rw [hs]
    rfl
  rw [hlapse]
  exact le_add_of_nonneg_right hspan

theorem le_bodyEnd {reply : Reply} (h : ∀ chunk ∈ reply.chunks, chunk.cost.IsCost) (now : Rat) :
    now ≤ reply.bodyEnd now := by
  unfold Reply.bodyEnd
  revert h
  induction reply.chunks generalizing now with
  | nil => exact fun _ => le_refl now
  | cons chunk rest ih =>
    intro h
    have hchunk := le_lapse (h chunk List.mem_cons_self) now
    exact le_trans hchunk (ih _ fun chunk hm => h chunk (List.mem_cons_of_mem _ hm))

theorem isLess_iff {a b : Rat} : Clock.isLess a b = true ↔ a < b := decide_eq_true_iff

theorem isLess_sub_iff {deadline now : Rat} : Clock.isLess Clock.zero (Clock.sub deadline now) = true ↔ now < deadline :=
  isLess_iff.trans sub_pos

/-- The time that a reply takes, and each part of its body, can be told and is not negative. -/
def Reply.TakesTime (reply : Reply) : Prop :=
  reply.cost.IsCost ∧ ∀ chunk ∈ reply.chunks, chunk.cost.IsCost

theorem Reply.TakesTime.isTimed {reply : Reply} (h : reply.TakesTime) : reply.IsTimed Rat := by
  constructor
  · obtain ⟨span, hs, -⟩ := span?_of_isCost h.1
    rw [hs]
    rfl
  · intro chunk hm
    obtain ⟨span, hs, -⟩ := span?_of_isCost (h.2 chunk hm)
    rw [hs]
    rfl

/-- What an answer that was complete at some point in time has to do with the deadline.  All requests went out before it,
the last one that to which the `k`-th reply is the answer.  The body is complete by the deadline if and only if it has any
part or the reply came in by the deadline. -/
structure InTime (deadline : Rat) (world : World Rat) (k : Nat) (complete : Rat) : Prop where
  sent_lt : ∀ j ≤ k, world.timeAt j < deadline
  complete_eq : complete = (world.replyAt k).bodyEnd (world.timeAt (k + 1))
  arrived_le : world.timeAt (k + 1) ≤ complete
  complete_le_iff : complete ≤ deadline ↔ (world.replyAt k).chunks ≠ [] ∨ world.timeAt (k + 1) ≤ deadline

theorem Course.inTime {deadline : Rat} {world world' : World Rat} {sent : List (Request Rat)}
    (course : Course gateway origin deadline limit sourceId? left hop world sent (.ok response) world')
    (hcosts : ∀ k, (world.replyAt k).TakesTime) : ∃ k, k + 1 = sent.length ∧ InTime deadline world k world'.now := by
  obtain ⟨k, hk, htime, hend, hlate⟩ := course.answered_in_time
  have harrived : world.timeAt (k + 1) ≤ world'.now := by
    rw [hend]
    exact le_bodyEnd (hcosts k).2 _
  have hpunctual (hne : (world.replyAt k).chunks ≠ []) : world'.now ≤ deadline := by
    refine not_lt.mp fun hlt => ?_
    cases (hlate hne).symm.trans (isLess_iff.mpr hlt)
  refine ⟨k, hk, fun j hj => isLess_sub_iff.mp (htime j hj), hend, harrived, ?_⟩
  constructor
  · intro hle
    exact .inr (le_trans harrived hle)
  · rintro (hne | hle)
    · exact hpunctual hne
    · by_cases hnil : (world.replyAt k).chunks = []
      · -- nothing comes in after the reply
        rw [hend, Reply.bodyEnd, hnil]
        exact hle
      · exact hpunctual hnil

/-- A fetch within a time limit answers in time, but for an empty body that comes late, or fails in a way that callers are
promised, but for a redirect that strays. -/
theorem fetch_in_time (gateway : Gateway) (world : World Rat) (timeout? : Option Duration) {span : Rat}
    (hspan : Clock.span? (gateway.limitFor timeout?) = some span) (hcosts : ∀ k, (world.replyAt k).TakesTime)
    (hr : gateway.config.resolveHosts = true → ∀ k, ResolvesToAddresses (world.resolverAt gateway k))
    (hs : ∀ store, gateway.store? = some store → store.HoldsText world.files) (directive : Directive)
    (sourceId? : Option String) :
    ∃ sent result world', outcome (gateway.fetch directive timeout? sourceId?) world = (result, world') ∧
      world'.requests = world.requests ++ sent ∧
      (∀ response, result = .ok response →
        ∃ k, k + 1 = sent.length ∧ InTime (world.now + span) world k world'.now) ∧
      ∀ failure, result = .error failure →
        IsPromised failure ∨ Strays gateway.config.maxRedirects.toNat world sent ∧ failure = .fault .malformedUrl := by
  have reliable : gateway.Reliable world := reliable_of_holdsText (fun k => (hcosts k).isTimed) hr hs
  rcases fetch_cases gateway directive timeout? sourceId? world with
    ⟨failure, halted, hf⟩ | ⟨span', origin, sent, result, world', happroved, hspan', -, course, hf⟩
  · refine ⟨[], _, _, hf, by simp, nofun, ?_⟩
    intro failure' hresult
    obtain rfl := Except.error.inj hresult
    exact .inl (halted.isPromised reliable (by rw [hspan]; rfl))
  · obtain rfl := Option.some.inj (hspan.symm.trans hspan')
    refine ⟨sent, _, _, hf, by rw [requests_logged, course.requests_eq], ?_, ?_⟩
    · intro _ hresult
      cases result with
      | error failure => cases hresult
      | ok response =>
        rw [now_logged]
        exact course.inTime hcosts
    · intro failure hresult
      obtain rfl := eq_error_of_map hresult
      rcases course.ends reliable happroved with ⟨-, hconcludes⟩ | ⟨hstrays, hfault⟩
      · cases hconcludes with
        | failed h => exact .inl h
      · exact .inr ⟨hstrays, Except.error.inj hfault⟩

theorem fetch_in_time_after_redirect :
    let gateway : Gateway := ⟨.standard, fun _ => .ok [], none⟩
    let world := { World.start Rat ⟨"/", []⟩ ⟨200, [], [⟨"ok".toUTF8, .whole 40, none⟩], .whole 20, none⟩ with
      replies := [⟨302, [("Location", "/b")], [], .whole 30, none⟩] }
    Clock.span? (gateway.limitFor (some (.whole 500))) = some (1 / 2 : Rat) ∧ (∀ k, (world.replyAt k).TakesTime) ∧
    (gateway.config.resolveHosts = true → ∀ k, ResolvesToAddresses (world.resolverAt gateway k)) ∧
    (∀ store, gateway.store? = some store → store.HoldsText world.files) ∧
    ∃ sent result world', outcome (gateway.fetch ⟨"http://example.com/a", "GET", [], none⟩ (some (.whole 500)) none) world =
        (result, world') ∧
      world'.requests = world.requests ++ sent ∧
      (∀ response, result = .ok response →
        ∃ k, k + 1 = sent.length ∧ InTime (world.now + 1 / 2) world k world'.now) ∧
      ∀ failure, result = .error failure →
        IsPromised failure ∨ Strays gateway.config.maxRedirects.toNat world sent ∧ failure = .fault .malformedUrl := by
  intro gateway world
  have hspan : Clock.span? (gateway.limitFor (some (.whole 500))) = some (1 / 2 : Rat) := by decide +kernel
  have hwhole (n : Int) (hn : 0 ≤ n) : (Duration.whole n).IsCost := ⟨n, 1000, rfl, hn⟩
  have hcosts (k : Nat) : (world.replyAt k).TakesTime := by
    cases k with
    | zero => exact ⟨hwhole 30 (by decide), List.forall_mem_nil _⟩
    | succ k => exact ⟨hwhole 20 (by decide), List.forall_mem_singleton.mpr (hwhole 40 (by decide))⟩
  have hr : gateway.config.resolveHosts = true → ∀ k, ResolvesToAddresses (world.resolverAt gateway k) := nofun
  have hs : ∀ store, gateway.store? = some store → store.HoldsText world.files := nofun
  exact ⟨hspan, hcosts, hr, hs, fetch_in_time gateway world (some (.whole 500)) hspan hcosts hr hs _ none⟩

/-- A reply without a body that comes in after the deadline is answered. -/
theorem fetch_answers_late :
    let gateway : Gateway := ⟨.standard, fun _ => .ok [], none⟩
    let world := World.start Rat ⟨"/", []⟩ ⟨200, [], [], .whole 2000, none⟩
    let ended := outcome (gateway.fetch ⟨"http://example.com/", "GET", [], none⟩ (some (.whole 1000)) none) world
    Clock.span? (gateway.limitFor (some (.whole 1000))) = some (1 : Rat) ∧ ended.1.map (·.status) = .ok 200 ∧
      ended.2.requests.length = 1 ∧ world.now + 1 < world.timeAt 1 := by
  refine ⟨?_, ?_, ?_, ?_⟩ <;> decide +kernel

end Gateway

end SiteReader
