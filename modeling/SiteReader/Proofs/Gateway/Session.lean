import SiteReader.Gateway.Fetch
import SiteReader.Proofs.Outcome

/-!
# What the steps of a session come to

One equation for each step that a fetch is made of.  Sending takes the next reply and with it the next way of looking
hosts up (`outcome_send`); reading a body changes nothing but the time (`outcome_readChunks`), and a body that is read to its
end has all bytes of its parts and takes all their time (`bytes_of_readFrom`, `time_of_readFrom`).
-/

namespace SiteReader.Gateway

variable {τ α : Type}

/-! ### Scripts -/

/-- A world in which nothing has happened yet: there are no files, and every reply will be the same. -/
def World.start (τ : Type) [Clock τ] (home : FilePath) (reply : Reply) : World τ :=
  ⟨Clock.zero, [], reply, [], [], ⟨home, []⟩, Notes.empty, [], []⟩

/-- The reply to the request after `k` others. -/
def World.replyAt (world : World τ) (k : Nat) : Reply :=
  world.replies[k]?.getD world.lastReply

/-- How a gateway looks hosts up after `k` further replies. -/
def World.resolverAt (world : World τ) (gateway : Gateway) (k : Nat) : Resolver :=
  world.lookups[k]?.getD gateway.resolver

/-- The world after a request and its reply. -/
def World.after (world : World τ) (request : Request τ) (files : FileSystem) (now : τ) : World τ :=
  { world with
    now, files, requests := world.requests ++ [request], replies := world.replies.tail, lookups := world.lookups.tail }

@[simp] theorem World.replyAt_after (world : World τ) (request : Request τ) (files : FileSystem) (now : τ) (k : Nat) :
    (world.after request files now).replyAt k = world.replyAt (k + 1) := by
  simp [World.replyAt, World.after]

@[simp] theorem World.resolverAt_after (world : World τ) (request : Request τ) (files : FileSystem) (now : τ)
    (gateway : Gateway) (k : Nat) :
    (world.after request files now).resolverAt gateway k = world.resolverAt gateway (k + 1) := by
  simp [World.resolverAt, World.after]

@[simp] theorem World.requests_after (world : World τ) (request : Request τ) (files : FileSystem) (now : τ) :
    (world.after request files now).requests = world.requests ++ [request] := rfl

@[simp] theorem World.now_after (world : World τ) (request : Request τ) (files : FileSystem) (now : τ) :
    (world.after request files now).now = now := rfl

/-! ### Steps without effect on the transport -/

@[simp] theorem outcome_ofExcept (x : Except Failure α) (world : World τ) :
    outcome (Session.ofExcept x) world = (x, world) := by
  cases x <;> rfl

@[simp] theorem outcome_ofFault (x : Except Fault α) (world : World τ) :
    outcome (Session.ofFault x) world = (x.mapError .fault, world) := by
  cases x <;> rfl

theorem outcome_ofFiled (x : Filed α) (world : World τ) :
    outcome (Session.ofFiled x) world = ((outcome x world.files).1, { world with files := (outcome x world.files).2 }) := by
  unfold Session.ofFiled
  rw [outcome_bind, outcome_get]
  rcases h : outcome x world.files with ⟨_ | _, files⟩ <;> simp only [show x.run.run world.files = _ from h] <;> rfl

theorem outcome_ofNoted (x : Noted α) (world : World τ) :
    outcome (Session.ofNoted x) world =
      ((outcome x world.notes).1.mapError .fault, { world with notes := (outcome x world.notes).2 }) := by
  unfold Session.ofNoted
  rw [outcome_bind, outcome_get]
  rcases h : outcome x world.notes with ⟨_ | _, notes⟩ <;> simp only [show x.run.run world.notes = _ from h] <;> rfl

@[simp] theorem outcome_resolver (gateway : Gateway) (world : World τ) :
    outcome (Session.resolver gateway.resolver) world = (.ok (world.resolverAt gateway 0), world) := by
  simp [Session.resolver, outcome_map, World.resolverAt, List.headD_eq_head?_getD, List.head?_eq_getElem?, Except.map]

@[simp] theorem outcome_approve (gateway : Gateway) (url : String) (world : World τ) :
    outcome (gateway.approve url) world =
      (checkDestination gateway.config (world.resolverAt gateway 0) url, world) := by
  simp [Gateway.approve, outcome_bind]

theorem outcome_nextReply (world : World τ) :
    outcome (Session.nextReply : Session τ Reply) world =
      (.ok (world.replyAt 0), { world with replies := world.replies.tail, lookups := world.lookups.tail }) := by
  simp [Session.nextReply, outcome_bind, outcome_map, Except.map, World.replyAt, List.headD_eq_head?_getD,
    List.head?_eq_getElem?]

theorem outcome_closing (x : Session τ α) (world : World τ) :
    outcome (closing x) world = ((outcome x world).1, (outcome x world).2.closeLast) := by
  simp only [closing, outcome_bind, outcome_tryCatch, outcome_map]
  rcases outcome x world with ⟨_ | _, t⟩ <;> rfl

variable [Clock τ]

theorem outcome_span (duration : Duration) (world : World τ) :
    outcome (Session.span duration : Session τ τ) world =
      ((Clock.span? duration).elim (.error (.fault .overflow)) .ok, world) := by
  unfold Session.span
  cases (Clock.span? duration : Option τ) <;> rfl

theorem outcome_wait (cost : Duration) (world : World τ) :
    outcome (Session.wait cost) world = match (Clock.span? cost : Option τ) with
      | none => (.error (.fault .overflow), world)
      | some span => (.ok (), { world with now := Clock.add world.now span }) := by
  rw [Session.wait, outcome_bind, outcome_span]
  cases (Clock.span? cost : Option τ) <;> rfl

/-! ### Time -/

/-- The point in time at which something is over that starts now and takes so long. -/
def lapse (now : τ) (cost : Duration) : τ :=
  (Clock.span? cost).elim now (Clock.add now)

/-- The point in time at which the first `k` replies have come in, one after the other. -/
def World.timeAt (world : World τ) : Nat → τ
  | 0 => world.now
  | k + 1 => lapse (world.timeAt k) (world.replyAt k).cost

theorem World.timeAt_after (world : World τ) (request : Request τ) (files : FileSystem) (k : Nat) :
    (world.after request files (lapse world.now (world.replyAt 0).cost)).timeAt k = world.timeAt (k + 1) := by
  induction k with
  | zero => rfl
  | succ k ih =>
    show lapse ((world.after request files (lapse world.now (world.replyAt 0).cost)).timeAt k) _ =
      lapse (world.timeAt (k + 1)) _
    rw [ih, World.replyAt_after]

/-! ### Sending a request -/

/-- Whether a reply arrives: the transport does not fail, and the time that it takes can be expressed. -/
def Reply.Arrives (τ : Type) [Clock τ] (reply : Reply) : Prop :=
  reply.disruption? = none ∧ (Clock.span? reply.cost : Option τ).isSome

/-- Waiting for a reply from a point in time on: the failure if it does not arrive, and the time when that is known. -/
def arrival (limit : Duration) (reply : Reply) (now : τ) : Except Failure Unit × τ :=
  match Clock.span? reply.cost with
  | none => (.error (.fault .overflow), now)
  | some span =>
    (reply.disruption?.elim (.ok ()) fun disruption => .error (sendFailure limit disruption), Clock.add now span)

theorem arrival_eq_ok_iff {limit : Duration} {reply : Reply} {now : τ} :
    (arrival limit reply now).1 = .ok () ↔ reply.Arrives τ := by
  unfold arrival Reply.Arrives
  cases (Clock.span? reply.cost : Option τ) <;> cases reply.disruption? <;> simp

theorem time_of_arrival (limit : Duration) (reply : Reply) (now : τ) : (arrival limit reply now).2 = lapse now reply.cost := by
  unfold arrival lapse
  cases (Clock.span? reply.cost : Option τ) <;> rfl

theorem outcome_send_late {method url : String} {headers : Headers} {body? : Option String} {deadline : τ}
    {limit : Duration} {world : World τ} (h : Clock.isLess Clock.zero (Clock.sub deadline world.now) = false) :
    outcome (send method url headers body? deadline limit) world = (.error (.timedOut limit), world) := by
  simp [send, outcome_bind, h]

theorem outcome_send {method url : String} {headers : Headers} {body? : Option String} {deadline : τ}
    {limit : Duration} {world : World τ} (h : Clock.isLess Clock.zero (Clock.sub deadline world.now) = true) :
    outcome (send method url headers body? deadline limit) world =
      ((arrival limit (world.replyAt 0) world.now).1.map fun _ => world.replyAt 0,
        world.after ⟨method, url, headers, body?, Clock.sub deadline world.now, false, false⟩ world.files
          (arrival limit (world.replyAt 0) world.now).2) := by
  simp only [send, outcome_bind, outcome_get, h, Bool.not_true, Bool.false_eq_true, ↓reduceIte, outcome_modify,
    outcome_nextReply, outcome_wait, arrival, World.replyAt, World.after]
  generalize world.replies[0]?.getD world.lastReply = reply
  cases (Clock.span? reply.cost : Option τ) with
  | none => rfl
  | some span => cases reply.disruption? <;> rfl

/-! ### Taking a reply -/

/-- Reading the parts of a body from a point in time on: the bytes or the failure, and the time when it ends. -/
def readFrom (deadline : τ) (limit : Duration) : List Chunk → τ → Except Failure ByteArray × τ
  | [], now => (.ok ByteArray.empty, now)
  | chunk :: rest, now =>
    match Clock.span? chunk.cost with
    | none => (.error (.fault .overflow), now)
    | some span =>
      let now := Clock.add now span
      match chunk.disruption? with
      | some disruption => (.error (readFailure limit disruption), now)
      | none =>
        if Clock.isLess deadline now then (.error (.timedOut limit), now)
        else ((readFrom deadline limit rest now).1.map (chunk.bytes ++ ·), (readFrom deadline limit rest now).2)

/-- A body is read on after its first part if that came in by the deadline. -/
theorem readFrom_cons {deadline : τ} {limit : Duration} {chunk : Chunk} {rest : List Chunk} {now : τ} {bytes : ByteArray}
    (h : (readFrom deadline limit (chunk :: rest) now).1 = .ok bytes) :
    Clock.isLess deadline (lapse now chunk.cost) = false ∧
      (∃ read, (readFrom deadline limit rest (lapse now chunk.cost)).1 = .ok read ∧ bytes = chunk.bytes ++ read) ∧
      (readFrom deadline limit (chunk :: rest) now).2 = (readFrom deadline limit rest (lapse now chunk.cost)).2 := by
  rw [readFrom] at h ⊢
  unfold lapse
  cases hs : (Clock.span? chunk.cost : Option τ) with
  | none =>
    rw [hs] at h
    cases h
  | some span =>
    rw [hs] at h
    cases hd : chunk.disruption? with
    | some disruption =>
      rw [hd] at h
      cases h
    | none =>
      simp only [hd, Option.elim_some] at h ⊢
      cases ht : Clock.isLess deadline (Clock.add now span) with
      | true =>
        rw [ht] at h
        cases h
      | false =>
        simp only [ht, Bool.false_eq_true, ↓reduceIte] at h ⊢
        refine ⟨trivial, ?_, trivial⟩
        cases hr : (readFrom deadline limit rest (Clock.add now span)).1 with
        | error failure =>
          rw [hr] at h
          cases h
        | ok read =>
          rw [hr] at h
          exact ⟨read, rfl, (Except.ok.inj h).symm⟩

/-- A body that was read to its end took as long as its parts. -/
theorem time_of_readFrom {deadline : τ} {limit : Duration} {chunks : List Chunk} {now : τ} {bytes : ByteArray}
    (h : (readFrom deadline limit chunks now).1 = .ok bytes) :
    (readFrom deadline limit chunks now).2 = chunks.foldl (fun now chunk => lapse now chunk.cost) now := by
  induction chunks generalizing now bytes with
  | nil => rfl
  | cons chunk rest ih =>
    obtain ⟨-, ⟨read, hread, -⟩, htime⟩ := readFrom_cons h
    rw [htime, List.foldl_cons]
    exact ih hread

/-- A body that was read to its end is all of its parts, one after the other. -/
theorem bytes_of_readFrom {deadline : τ} {limit : Duration} {chunks : List Chunk} {now : τ} {bytes : ByteArray}
    (h : (readFrom deadline limit chunks now).1 = .ok bytes) :
    bytes.data.toList = chunks.flatMap fun chunk => chunk.bytes.data.toList := by
  induction chunks generalizing now bytes with
  | nil =>
    obtain rfl := Except.ok.inj h
    rfl
  | cons chunk rest ih =>
    obtain ⟨-, ⟨read, hread, rfl⟩, -⟩ := readFrom_cons h
    rw [List.flatMap_cons, ← ih hread, ByteArray.data_append, Array.toList_append]

theorem outcome_readChunks (deadline : τ) (limit : Duration) (chunks : List Chunk) (world : World τ) :
    outcome (readChunks deadline limit chunks) world =
      ((readFrom deadline limit chunks world.now).1, { world with now := (readFrom deadline limit chunks world.now).2 }) := by
  induction chunks generalizing world with
  | nil => rfl
  | cons chunk rest ih =>
    simp only [readChunks, readFrom, outcome_bind, outcome_wait]
    cases (Clock.span? chunk.cost : Option τ) with
    | none => rfl
    | some span =>
      cases chunk.disruption? with
      | some disruption => rfl
      | none =>
        simp only [outcome_bind, outcome_get]
        split
        next => rfl
        next =>
          simp only [outcome_bind, outcome_pure, ih]
          cases (readFrom deadline limit rest (Clock.add world.now span)).1 <;> rfl

theorem outcome_followUp (reply : Reply) (deadline : τ) (limit : Duration) (world : World τ) :
    outcome (followUp reply deadline limit) world = match reply.location? with
      | some location => (.ok (.inr location), world.closeLast)
      | none => ((readFrom deadline limit reply.chunks world.now).1.map .inl,
          { world with now := (readFrom deadline limit reply.chunks world.now).2 }.closeLast) := by
  rw [followUp, outcome_closing]
  cases reply.location? with
  | some location => rfl
  | none => simp only [outcome_map, outcome_readChunks]

end SiteReader.Gateway
