import Mathlib.Data.Nat.Cast.Order.Field
import SiteReader.Proofs.Gateway.Deadline

/-!
# Time limits that payloads ask for

A number above zero as the timeout of a payload asks for so many milliseconds, and its whole part is what a fetch is given
(`AsksFor.payloadTimeout_eq`).  A fetch sends no request with more time than its limit (`fetch_timeouts`), so a limit of a
millisecond or more bounds every request.  The whole part of a shorter one is zero, which a fetch takes for no limit at all
(`handle_time_limit`).
-/

namespace SiteReader.Gateway

/-! ### Limits that are asked for -/

/-- A number above zero as the timeout of a payload asks for so many milliseconds. -/
inductive AsksFor : Tree → Duration → Prop
  | whole {n : Int} (h : 0 < n) : AsksFor (.integer n) (.whole n)
  | fraction {x : Double} (hx : x.IsFinite) (h : Double.isLess .zero x = true) : AsksFor (.double x) (.fraction x)

/-- A limit that is asked for is one of so many milliseconds and less than one more, and the whole ones are read. -/
theorem AsksFor.payloadTimeout_eq {t : Tree} {asked : Duration} (h : AsksFor t asked) :
    ∃ (n : Nat) (limit : Rat), payloadTimeout (some t) = .ok (some (n : Int)) ∧ Clock.span? asked = some limit ∧
      (n : Rat) / 1000 ≤ limit ∧ limit < (n + 1 : Rat) / 1000 := by
  cases h with
  | @whole n h =>
    obtain ⟨n, rfl⟩ := Int.eq_ofNat_of_zero_le (Int.le_of_lt h)
    refine ⟨n, n / 1000, if_neg (Int.not_le.mpr h), ?_, le_refl _, ?_⟩
    · simp [Clock.span?, Duration.seconds?]
    · gcongr
      exact lt_add_one _
  | @fraction x hx h =>
    obtain @⟨negative, mantissa, exponent, hm, he⟩ := hx
    obtain rfl : negative = false := by
      rw [← Bool.not_eq_true]
      rintro rfl
      have hlt : (0 : Int) < -((mantissa * Nat.pow 2 (exponent + 1074).toNat : Nat) : Int) := by
        simpa [Double.isLess, Double.scaled?, Double.zero] using h
      omega
    obtain ⟨steps, hsteps, hwhole⟩ := (Double.IsFinite.finite hm he).truncate?_eq
    have hpos : (0 : Rat) < Double.resolution := Nat.cast_pos.mpr Double.resolution_pos
    have hlimit : (steps / (1000 * Double.resolution : Nat) : Rat) = steps / Double.resolution / 1000 := by
      rw [Nat.cast_mul, Nat.cast_ofNat, mul_comm, div_div]
    refine ⟨steps / Double.resolution, steps / Double.resolution / 1000, ?_, ?_, ?_, ?_⟩
    · rw [payloadTimeout, h]
      · exact congrArg Except.ok hwhole
      · intro hnan
        cases hnan
      · intro _ hinfinite
        cases hinfinite
    · have hseconds : (Duration.fraction (.finite false mantissa exponent)).seconds? =
          some ((steps : Int), 1000 * Double.resolution) :=
        congrArg (Option.map fun n => (n, 1000 * Double.resolution)) hsteps
      rw [← hlimit]
      exact congrArg (Option.map _) hseconds
    · gcongr
      exact Nat.cast_div_le
    · gcongr
      rw [div_lt_iff₀ hpos]
      exact_mod_cast Nat.lt_mul_of_div_lt (Nat.lt_succ_self _) Double.resolution_pos

/-- The timeout of a payload that is read is the one that its field asks for. -/
theorem payloadTimeout_of_readPayload {fields : List (String × Tree)} {directive : Directive} {timeout? : Option Int}
    (h : readPayload (.object fields) = .ok (directive, timeout?)) :
    payloadTimeout (Tree.field? "timeout" fields) = .ok timeout? := by
  by_cases hasks : ∃ url, Asks fields url
  · obtain ⟨url, hasks⟩ := hasks
    obtain ⟨asked, -, hread⟩ := readPayload_of_asks hasks
    rw [hread] at h
    cases ht : payloadTimeout (Tree.field? "timeout" fields) with
    | error failure =>
      rw [ht] at h
      cases h
    | ok timeout =>
      rw [ht] at h
      cases h
      rfl
  · obtain ⟨defect, hread⟩ := readPayload_of_not_asks fun url hu => hasks ⟨url, hu⟩
    cases hread.symm.trans h

/-! ### Time that is left -/

theorem le_timeAt {world : World Rat} (hcosts : ∀ k, (world.replyAt k).TakesTime) (k : Nat) :
    world.now ≤ world.timeAt k := by
  induction k with
  | zero => exact le_refl world.now
  | succ k ih => exact ih.trans (le_lapse (hcosts k).1 _)

/-- The requests of a fetch are within the limit that it works with, which the first of them is given in full. -/
theorem fetch_timeouts (gateway : Gateway) (directive : Directive) (timeout? : Option Duration) (sourceId? : Option String)
    {world : World Rat} (hcosts : ∀ k, (world.replyAt k).TakesTime) :
    ∃ sent, (outcome (gateway.fetch directive timeout? sourceId?) world).2.requests = world.requests ++ sent ∧
      (∀ request ∈ sent, ∃ span, Clock.span? (gateway.limitFor timeout?) = some span ∧ request.timeout ≤ span) ∧
      ∀ request, sent[0]? = some request → Clock.span? (gateway.limitFor timeout?) = some request.timeout := by
  rcases fetch_cases gateway directive timeout? sourceId? world with
    ⟨failure, -, hf⟩ | ⟨span, origin, sent, result, world', -, hspan, -, course, hf⟩
  · refine ⟨[], ?_, nofun, nofun⟩
    rw [hf, requests_logged, List.append_nil]
  · refine ⟨sent, ?_, fun request hm => ⟨span, hspan, ?_⟩, fun request hk => ?_⟩
    · rw [hf, requests_logged, course.requests_eq]
    · obtain ⟨k, hk⟩ := List.mem_iff_getElem?.mp hm
      rw [(course.timeout_eq hk).1]
      exact sub_le_iff_le_add'.mpr (add_le_add_left (le_timeAt hcosts k) span)
    · rw [hspan, (course.timeout_eq hk).1]
      exact congrArg some (add_sub_cancel_left world.now span).symm

theorem limitFor_whole (gateway : Gateway) {n : Nat} (hn : n ≠ 0) :
    gateway.limitFor ((some (n : Int)).map .whole) = .whole n :=
  if_neg (by simpa [Duration.isZero] using hn)

/-! ### Serving within a limit -/

/-- A timeout of a millisecond or more that a payload asks for bounds every request that is sent for it.  A shorter one has
no whole milliseconds, and none counts as no timeout, so that the first request goes out with the usual limit. -/
theorem handle_time_limit (gateway : Gateway) {fields : List (String × Tree)} {t : Tree} {asked : Duration}
    (hfield : Tree.field? "timeout" fields = some t) (hasked : AsksFor t asked) {world : World Rat}
    (hcosts : ∀ k, (world.replyAt k).TakesTime) :
    ∃ limit sent, Clock.span? asked = some limit ∧
      (outcome (gateway.handle (.object fields)) world).2.requests = world.requests ++ sent ∧
      (1 / 1000 ≤ limit → ∀ request ∈ sent, request.timeout ≤ limit) ∧
      (limit < 1 / 1000 → ∀ request, sent[0]? = some request →
        Clock.span? gateway.config.defaultTimeout = some request.timeout) := by
  obtain ⟨n, limit, htimeout, hlimit, hle, hlt⟩ := hasked.payloadTimeout_eq
  rw [handle_eq]
  cases hread : readPayload (.object fields) with
  | error failure => exact ⟨limit, [], hlimit, (List.append_nil _).symm, fun _ => nofun, fun _ => nofun⟩
  | ok read =>
    obtain ⟨directive, timeout?⟩ := read
    obtain rfl : some (n : Int) = timeout? := by
      have hfields := payloadTimeout_of_readPayload hread
      rw [hfield, htimeout] at hfields
      exact Except.ok.inj hfields
    obtain ⟨sent, hrequests, hbound, hfirst⟩ :=
      fetch_timeouts gateway directive ((some (n : Int)).map .whole) none hcosts
    refine ⟨limit, sent, hlimit, hrequests, fun hlong request hm => ?_, fun hshort => ?_⟩
    · have hn : n ≠ 0 := by
        rintro rfl
        exact absurd (hlong.trans_lt hlt) (by norm_num)
      obtain ⟨span, hspan, htime⟩ := hbound request hm
      obtain rfl : (n : Rat) / 1000 = span := by
        rw [limitFor_whole gateway hn] at hspan
        exact Option.some.inj hspan
      exact htime.trans hle
    · obtain rfl : n = 0 := by
        have hn : (n : Rat) / 1000 < 1 / 1000 := hle.trans_lt hshort
        rw [div_lt_div_iff_of_pos_right (by norm_num), ← Nat.cast_one, Nat.cast_lt] at hn
        exact Nat.lt_one_iff.mp hn
      -- no whole milliseconds count as no timeout
      exact hfirst

theorem handle_time_limit_redirected :
    let gateway : Gateway := ⟨.standard, fun _ => .ok [], none⟩
    let fields := [("url", .text "http://example.com/a"), ("timeout", .double (Double.ofRatio false 1001 2))]
    let world := { World.start Rat ⟨"/", []⟩ ⟨200, [], [⟨"ok".toUTF8, .whole 40, none⟩], .whole 20, none⟩ with
      replies := [⟨302, [("Location", "/b")], [], .whole 30, none⟩] }
    Tree.field? "timeout" fields = some (.double (Double.ofRatio false 1001 2)) ∧
    AsksFor (.double (Double.ofRatio false 1001 2)) (.fraction (Double.ofRatio false 1001 2)) ∧
    (∀ k, (world.replyAt k).TakesTime) ∧
    ∃ limit sent, Clock.span? (.fraction (Double.ofRatio false 1001 2)) = some limit ∧
      (outcome (gateway.handle (.object fields)) world).2.requests = world.requests ++ sent ∧
      (1 / 1000 ≤ limit → ∀ request ∈ sent, request.timeout ≤ limit) ∧
      (limit < 1 / 1000 → ∀ request, sent[0]? = some request →
        Clock.span? gateway.config.defaultTimeout = some request.timeout) := by
  intro gateway fields world
  have hasked : AsksFor (.double (Double.ofRatio false 1001 2)) (.fraction (Double.ofRatio false 1001 2)) :=
    .fraction (.finite (by decide +kernel) (by decide +kernel)) (by decide +kernel)
  have hwhole (n : Int) (hn : 0 ≤ n) : (Duration.whole n).IsCost := ⟨n, 1000, rfl, hn⟩
  have hcosts (k : Nat) : (world.replyAt k).TakesTime := by
    cases k with
    | zero => exact ⟨hwhole 30 (by decide), List.forall_mem_nil _⟩
    | succ k => exact ⟨hwhole 20 (by decide), List.forall_mem_singleton.mpr (hwhole 40 (by decide))⟩
  exact ⟨rfl, hasked, hcosts, handle_time_limit gateway rfl hasked hcosts⟩

/-- Half a millisecond is asked for, and the request goes out with half a minute. -/
theorem handle_exceeds_limit :
    let gateway : Gateway := ⟨.standard, fun _ => .ok [], none⟩
    let half := Double.ofRatio false 1 2
    let world := World.start Rat ⟨"/", []⟩ ⟨200, [], [], .whole 0, none⟩
    let payload := Tree.object [("url", .text "http://example.com/"), ("timeout", .double half)]
    Clock.span? (.fraction half) = some (1 / 2000 : Rat) ∧ Double.isLess .zero half = true ∧
      (outcome (gateway.handle payload) world).2.requests.map (·.timeout) = [30] := by
  refine ⟨?_, ?_, ?_⟩ <;> decide +kernel

end SiteReader.Gateway
