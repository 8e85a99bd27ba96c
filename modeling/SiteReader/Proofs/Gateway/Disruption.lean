import Mathlib.Tactic.Common
import SiteReader.Proofs.Gateway.Exchange

/-!
# Failures of the transport

The transport may fail while the reply to any request of a fetch is waited for, and at any part of a body that is read
(`Disrupted`).  The fetch ends there (`Course.disrupted`), and the failure that it ends with is the same at all hops and for
all parts.  It is not the same in both phases: a timeout that is hidden in a broken connection is told only while a body is
read, and any other timeout only while a request is sent.  What a phase misses passes for a failure of the other side
(`fetch_disrupted`).
-/

namespace SiteReader.Gateway

/-! ### What a disruption amounts to -/

/-- Out of time, in the open or under the guise of a broken connection. -/
def DisruptionKind.IsDelay (kind : DisruptionKind) : Prop :=
  kind.isTimeout = true ∨ kind.isConnection = true ∧ kind.hidesTimeout = true

/-- What goes on when the transport fails. -/
inductive Phase where
  | sending
  | reading

/-- The failure that a disruption amounts to in a phase. -/
def Phase.failure (limit : Duration) (disruption : Disruption) : Phase → Failure
  | sending => sendFailure limit disruption
  | reading => readFailure limit disruption

/-- A phase does not recognise a delay: a hidden one while sending, one that is not hidden while reading. -/
def Phase.Misses : Phase → DisruptionKind → Prop
  | sending, kind => kind.isTimeout = false ∧ kind.isConnection = true ∧ kind.hidesTimeout = true
  | reading, kind => kind.isTimeout = true ∧ ¬ (kind.isConnection = true ∧ kind.hidesTimeout = true)

theorem Phase.failure_of_told {phase : Phase} {disruption : Disruption} (limit : Duration)
    (hd : disruption.kind.IsDelay) (hm : ¬ phase.Misses disruption.kind) :
    phase.failure limit disruption = .timedOut limit := by
  cases phase with
  | sending =>
    have ht : disruption.kind.isTimeout = true := by
      rcases hd with ht | hh
      · exact ht
      · exact Decidable.byContradiction fun hn => hm ⟨Bool.not_eq_true _ ▸ hn, hh⟩
    exact if_pos ht
  | reading =>
    have hh : disruption.kind.isConnection = true ∧ disruption.kind.hidesTimeout = true := by
      rcases hd with ht | hh
      · exact Decidable.byContradiction fun hn => hm ⟨ht, hn⟩
      · exact hh
    exact if_pos (Bool.and_eq_true_iff.mpr hh)

theorem Phase.failure_of_not_told {phase : Phase} {disruption : Disruption} (limit : Duration)
    (h : ¬ disruption.kind.IsDelay ∨ phase.Misses disruption.kind) :
    phase.failure limit disruption = .upstream (.transport disruption.reason) := by
  cases phase with
  | sending =>
    have ht : ¬ disruption.kind.isTimeout = true := by
      rcases h with hd | ⟨ht, -⟩
      · exact fun ht => hd (.inl ht)
      · exact Bool.eq_false_iff.mp ht
    exact if_neg ht
  | reading =>
    have hh : ¬ (disruption.kind.isConnection = true ∧ disruption.kind.hidesTimeout = true) := by
      rcases h with hd | ⟨-, hh⟩
      · exact fun hh => hd (.inr hh)
      · exact hh
    exact if_neg fun hand => hh (Bool.and_eq_true_iff.mp hand)

/-- A disruption is told as a timeout if it is a delay that is not missed, and else as a failure of the other side; in no case
is there a status. -/
theorem Phase.kind?_failure (phase : Phase) (limit : Duration) (disruption : Disruption) :
    (phase.failure limit disruption).upstreamStatus? = none ∧
      ((phase.failure limit disruption).kind? = some .requestTimeout ↔
        disruption.kind.IsDelay ∧ ¬ phase.Misses disruption.kind) ∧
      ((phase.failure limit disruption).kind? = some .upstreamError ↔
        ¬ disruption.kind.IsDelay ∨ phase.Misses disruption.kind) := by
  by_cases h : disruption.kind.IsDelay ∧ ¬ phase.Misses disruption.kind
  · have hnot : ¬ (¬ disruption.kind.IsDelay ∨ phase.Misses disruption.kind) := by
      rintro (hd | hm)
      · exact hd h.1
      · exact h.2 hm
    rw [failure_of_told limit h.1 h.2]
    exact ⟨rfl, iff_of_true rfl h, iff_of_false nofun hnot⟩
  · have hnot : ¬ disruption.kind.IsDelay ∨ phase.Misses disruption.kind := by
      by_cases hd : disruption.kind.IsDelay
      · exact .inr (Classical.byContradiction fun hm => h ⟨hd, hm⟩)
      · exact .inl hd
    rw [failure_of_not_told limit hnot]
    exact ⟨rfl, iff_of_false nofun h, iff_of_true rfl hnot⟩

/-- Out of time while connecting, with a connection that is broken as well. -/
example (limit : Duration) (reason : String) :
    Phase.sending.failure limit ⟨.connectTimeout, reason⟩ = .timedOut limit ∧
      Phase.reading.failure limit ⟨.connectTimeout, reason⟩ = .upstream (.transport reason) :=
  ⟨rfl, rfl⟩

/-! ### Where a fetch is disrupted -/

variable {τ : Type} [Clock τ]

/-- A body that is read from a point in time on meets a disruption before the deadline is found to be past. -/
inductive BreaksOff (deadline : τ) (disruption : Disruption) : List Chunk → τ → Prop
  | here {chunk : Chunk} {rest : List Chunk} {now : τ} (hs : (Clock.span? chunk.cost : Option τ).isSome)
      (hd : chunk.disruption? = some disruption) : BreaksOff deadline disruption (chunk :: rest) now
  | later {chunk : Chunk} {rest : List Chunk} {now : τ} (hs : (Clock.span? chunk.cost : Option τ).isSome)
      (hd : chunk.disruption? = none) (ht : Clock.isLess deadline (lapse now chunk.cost) = false)
      (h : BreaksOff deadline disruption rest (lapse now chunk.cost)) :
      BreaksOff deadline disruption (chunk :: rest) now

/-- The `k`-th reply of a fetch with a deadline is disrupted while it is waited for or, if it sends the client nowhere else,
while its body is read. -/
inductive Disrupted (deadline : τ) (world : World τ) (k : Nat) (disruption : Disruption) : Phase → Prop
  | sending (hs : (Clock.span? (world.replyAt k).cost : Option τ).isSome)
      (hd : (world.replyAt k).disruption? = some disruption) : Disrupted deadline world k disruption .sending
  | reading (ha : (world.replyAt k).Arrives τ) (hl : (world.replyAt k).location? = none)
      (h : BreaksOff deadline disruption (world.replyAt k).chunks (world.timeAt (k + 1))) :
      Disrupted deadline world k disruption .reading

variable {deadline : τ} {limit : Duration} {disruption : Disruption} {phase : Phase}

theorem readFrom_of_breaksOff {chunks : List Chunk} {now : τ} (h : BreaksOff deadline disruption chunks now) :
    (readFrom deadline limit chunks now).1 = .error (readFailure limit disruption) := by
  induction h with
  | here hs hd =>
    obtain ⟨span, hspan⟩ := Option.isSome_iff_exists.mp hs
    simp only [readFrom, hspan, hd]
  | later hs hd ht _ ih =>
    obtain ⟨span, hspan⟩ := Option.isSome_iff_exists.mp hs
    simp only [lapse, hspan, Option.elim_some] at ht ih
    simp only [readFrom, hspan, hd, ht, Bool.false_eq_true, ↓reduceIte, ih, Except.map]

theorem arrival_of_disruption {reply : Reply} {now : τ} (hs : (Clock.span? reply.cost : Option τ).isSome)
    (hd : reply.disruption? = some disruption) :
    (arrival limit reply now).1 = .error (sendFailure limit disruption) := by
  obtain ⟨span, hspan⟩ := Option.isSome_iff_exists.mp hs
  simp only [arrival, hspan, hd, Option.elim_some]

/-- A reply that arrives and sends the client elsewhere is not disrupted in either phase. -/
theorem not_disrupted_of_location {world : World τ} {k : Nat} {location : String} (ha : (world.replyAt k).Arrives τ)
    (hl : (world.replyAt k).location? = some location) : ¬ Disrupted deadline world k disruption phase := by
  intro h
  cases h with
  | sending _ hd => cases hd.symm.trans ha.1
  | reading _ hnone => cases hl.symm.trans hnone

theorem disrupted_after {world : World τ} {request : Request τ} {files : FileSystem} {k : Nat} :
    Disrupted deadline (world.after request files (lapse world.now (world.replyAt 0).cost)) k disruption phase ↔
      Disrupted deadline world (k + 1) disruption phase := by
  constructor
  · intro h
    cases h with
    | sending hs hd =>
      rw [World.replyAt_after] at hs hd
      exact .sending hs hd
    | reading ha hl h =>
      rw [World.replyAt_after] at ha hl h
      rw [World.timeAt_after] at h
      exact .reading ha hl h
  · intro h
    cases h with
    | sending hs hd => exact .sending (by rwa [World.replyAt_after]) (by rwa [World.replyAt_after])
    | reading ha hl h =>
      refine .reading (by rwa [World.replyAt_after]) (by rwa [World.replyAt_after]) ?_
      rwa [World.replyAt_after, World.timeAt_after]

variable {gateway : Gateway} {origin : List Char} {left : Nat} {sourceId? : Option String} {hop : Hop}
  {world world' : World τ} {sent : List (Request τ)} {result : Except Failure Response}

/-- An exchange ends at the first disruption, with the failure that this amounts to in its phase. -/
theorem Course.disrupted (course : Course gateway origin deadline limit sourceId? left hop world sent result world')
    {k : Nat} (hk : k < sent.length) (h : Disrupted deadline world k disruption phase) :
    k + 1 = sent.length ∧ result = .error (phase.failure limit disruption) := by
  -- on the course: a reply that leads on is not disrupted, so the disruption is one of the further course
  induction course generalizing k with
  | unsent => exact absurd hk (Nat.not_lt_zero k)
  | lost sends ha =>
    obtain rfl : k = 0 := by simpa using hk
    refine ⟨rfl, ?_⟩
    cases h with
    | sending hs hd => exact congrArg Except.error (Except.error.inj (ha.symm.trans (arrival_of_disruption hs hd)))
    | reading harrives => cases ha.symm.trans (arrival_eq_ok_iff.mpr harrives)
  | answered sends ha hl =>
    obtain rfl : k = 0 := by simpa using hk
    refine ⟨rfl, ?_⟩
    cases h with
    | sending _ hd => cases hd.symm.trans (arrival_eq_ok_iff.mp ha).1
    | reading _ _ h =>
      have hread : (readFrom deadline limit _ _).1 = .error (readFailure limit disruption) := readFrom_of_breaksOff h
      rw [time_of_arrival]
      exact congrArg (Except.bind · _) hread
  | exhausted sends ha hl | astray sends ha hl | refused sends ha hl =>
    obtain rfl : k = 0 := by simpa using hk
    exact absurd h (not_disrupted_of_location (arrival_eq_ok_iff.mp ha) hl)
  | onward sends ha hl hj hc rest ih =>
    cases k with
    | zero => exact absurd h (not_disrupted_of_location (arrival_eq_ok_iff.mp ha) hl)
    | succ k =>
      rw [time_of_arrival] at ih
      obtain ⟨hlast, hresult⟩ := ih (by simpa using hk) (disrupted_after.mpr h)
      exact ⟨by rw [List.length_cons, hlast], hresult⟩

/-! ### A fetch -/

/-- A fetch that is disrupted ends there.  Whatever the hop and the part of the body, it ends with a timeout if the disruption
is a delay that its phase does not miss, and with a failure of the other side, without a status, in all other cases. -/
theorem fetch_disrupted (gateway : Gateway) (directive : Directive) (timeout? : Option Duration)
    (sourceId? : Option String) (world : World τ) :
    ∃ sent result world', outcome (gateway.fetch directive timeout? sourceId?) world = (result, world') ∧
      world'.requests = world.requests ++ sent ∧
      ∀ span, Clock.span? (gateway.limitFor timeout?) = some span → ∀ k < sent.length, ∀ disruption phase,
        Disrupted (Clock.add world.now span) world k disruption phase →
        k + 1 = sent.length ∧ ∃ failure, result = .error failure ∧
          failure = phase.failure (gateway.limitFor timeout?) disruption ∧ failure.upstreamStatus? = none ∧
          (failure.kind? = some .requestTimeout ↔ disruption.kind.IsDelay ∧ ¬ phase.Misses disruption.kind) ∧
          (failure.kind? = some .upstreamError ↔ ¬ disruption.kind.IsDelay ∨ phase.Misses disruption.kind) := by
  rcases fetch_cases gateway directive timeout? sourceId? world with
    ⟨failure, -, hf⟩ | ⟨span, origin, sent, result, world', -, hspan, -, course, hf⟩
  · exact ⟨[], _, _, hf, by simp, fun _ _ k hk => absurd hk (Nat.not_lt_zero k)⟩
  · refine ⟨sent, _, _, hf, by rw [requests_logged, course.requests_eq], ?_⟩
    intro span' hspan' k hk disruption phase h
    obtain rfl := Option.some.inj (hspan.symm.trans hspan')
    obtain ⟨hlast, rfl⟩ := course.disrupted hk h
    exact ⟨hlast, _, rfl, rfl, phase.kind?_failure _ disruption⟩

/-- After a redirect, the second part of a body breaks off with a hidden timeout. -/
theorem fetch_disrupted_after_redirect :
    let gateway : Gateway := ⟨.standard, fun _ => .ok [], none⟩
    let disruption : Disruption := ⟨.hiddenTimeout, "None: Read timed out."⟩
    let parts : List Chunk := [⟨"ok".toUTF8, .whole 40, none⟩, ⟨ByteArray.empty, .whole 10, some disruption⟩]
    let world := { World.start Rat ⟨"/", []⟩ ⟨200, [], parts, .whole 20, none⟩ with
      replies := [⟨302, [("Location", "/b")], [], .whole 30, none⟩] }
    let fetched := outcome (gateway.fetch ⟨"http://example.com/a", "GET", [], none⟩ (some (.whole 500)) none) world
    fetched.2.requests.length = 2 ∧ Disrupted (Clock.add world.now (1 / 2)) world 1 disruption .reading ∧
      ∃ failure, fetched.1 = .error failure ∧ failure.kind? = some .requestTimeout := by
  intro gateway disruption parts world fetched
  obtain ⟨sent, result, world', hf, hrequests, hdisrupted⟩ := fetch_disrupted gateway
    ⟨"http://example.com/a", "GET", [], none⟩ (some (.whole 500)) none world
  have hlength : fetched.2.requests.length = 2 := by decide +kernel
  have hsent : sent.length = 2 := by
    rw [← hlength, show fetched = (result, world') from hf, hrequests]
    rfl
  have hreading : Disrupted (Clock.add world.now (1 / 2)) world 1 disruption .reading :=
    .reading ⟨rfl, by decide +kernel⟩ (by decide +kernel)
      (.later (by decide +kernel) rfl (by decide +kernel) (.here (by decide +kernel) rfl))
  obtain ⟨-, failure, hresult, -, -, htimeout, -⟩ := hdisrupted (1 / 2) (by decide +kernel) 1 (by omega) disruption
    .reading hreading
  refine ⟨hlength, hreading, failure, (congrArg Prod.fst hf).trans hresult, htimeout.mpr ⟨.inr ⟨rfl, rfl⟩, ?_⟩⟩
  rintro ⟨hopen, -⟩
  exact Bool.false_ne_true hopen

/-- A hidden timeout before the reply and a timeout in the middle of the body are delays that a fetch does not tell. -/
theorem fetch_misses_delays :
    let gateway : Gateway := ⟨.standard, fun _ => .ok [], none⟩
    let fetched (reply : Reply) := (outcome (gateway.fetch ⟨"http://example.com/", "GET", [], none⟩
      (some (.whole 1000)) none) (World.start Double ⟨"/", []⟩ reply)).1
    (DisruptionKind.hiddenTimeout.IsDelay ∧
      fetched ⟨200, [], [], .whole 0, some ⟨.hiddenTimeout, "None: Read timed out."⟩⟩ =
        .error (.upstream (.transport "None: Read timed out."))) ∧
    DisruptionKind.timeout.IsDelay ∧
      fetched ⟨200, [], [⟨"a".toUTF8, .whole 0, none⟩, ⟨ByteArray.empty, .whole 0, some ⟨.timeout, "slow"⟩⟩], .whole 0,
        none⟩ = .error (.upstream (.transport "slow")) := by
  intro gateway fetched
  refine ⟨⟨.inr ⟨rfl, rfl⟩, eq_error_of_map (f := fun _ => ()) ?_⟩, .inl rfl, eq_error_of_map (f := fun _ => ()) ?_⟩
  · decide +kernel
  · decide +kernel

end SiteReader.Gateway
