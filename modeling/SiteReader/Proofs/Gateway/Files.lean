import SiteReader.Client
import SiteReader.Proofs.Gateway.Exchange

/-!
# What becomes of the files

A gateway and its client touch the files only to look cookies up.  So what each look-up preserves holds after a fetch if
it held before, however the fetch ends (`keeps_fetch`), and so it does after a document was read (`Client.keeps_document`).
-/

namespace SiteReader

namespace Gateway

variable {τ α : Type} {P : FileSystem → Prop}

/-! ### Steps of a session -/

namespace Session

/-- However a computation ends, a property of the files that held before holds afterwards. -/
def Keeps (P : FileSystem → Prop) (x : Session τ α) : Prop :=
  Preserves (fun world : World τ => P world.files) x

theorem keeps_of_files_eq {x : Session τ α} (h : ∀ world, (outcome x world).2.files = world.files) : Keeps P x :=
  fun world hp => show P (outcome x world).2.files from h world ▸ hp

theorem keeps_tell (line : String) : Keeps P (tell line : Session τ Unit) :=
  keeps_of_files_eq fun _ => rfl

theorem keeps_ofExcept (x : Except Failure α) : Keeps P (ofExcept x : Session τ α) :=
  keeps_of_files_eq fun world => by rw [outcome_ofExcept]

theorem keeps_ofFault (x : Except Fault α) : Keeps P (ofFault x : Session τ α) :=
  keeps_of_files_eq fun world => by rw [outcome_ofFault]

theorem keeps_ofNoted (x : Noted α) : Keeps P (ofNoted x : Session τ α) :=
  keeps_of_files_eq fun world => by rw [outcome_ofNoted]

theorem keeps_ofFiled {x : Filed α} (h : Preserves P x) : Keeps P (ofFiled x : Session τ α) := by
  intro world hp
  rw [outcome_ofFiled]
  exact h world.files hp

end Session

/-! ### Fetching -/

/-- The store of a gateway preserves a property of the files when it looks cookies up. -/
def LooksUp (P : FileSystem → Prop) (gateway : Gateway) : Prop :=
  ∀ store, gateway.store? = some store → ∀ sourceId url, Preserves P (store.cookieFor sourceId url)

variable {gateway : Gateway}

theorem preserves_requestHeaders (h : gateway.LooksUp P) (headers : Headers) (url : String) (sourceId? : Option String) :
    Preserves P (gateway.requestHeaders headers url sourceId?) := by
  unfold requestHeaders
  dsimp only
  split
  next sourceId store hs =>
    split
    next => exact .pure _
    next => exact .bind (h store hs sourceId url) fun _ => .pure _
  next => exact .pure _

variable [Clock τ] {origin : List Char} {deadline : τ} {limit : Duration} {left : Nat} {sourceId? : Option String}
  {hop : Hop} {world world' : World τ} {sent : List (Request τ)} {result : Except Failure Response}

theorem Course.keeps (h : gateway.LooksUp P)
    (course : Course gateway origin deadline limit sourceId? left hop world sent result world') (hp : P world.files) :
    P world'.files := by
  have hheaders {confined : Hop} {fs files : FileSystem} {headers : Except Failure Headers}
      (hh : outcome (gateway.requestHeaders confined.headers confined.url sourceId?) fs = (headers, files)) (hp : P fs) :
      P files := by
    simpa only [hh] using preserves_requestHeaders h confined.headers confined.url sourceId? fs hp
  induction course with
  | unsent unsent =>
    cases unsent with
    | unreadable => exact hp
    | unfiled _ hh | late _ hh => exact hheaders hh hp
  | lost sends | answered sends | exhausted sends | astray sends | refused sends => exact hheaders sends.headers_eq hp
  | onward sends _ _ _ _ _ ih => exact ih (hheaders sends.headers_eq hp)

omit [Clock τ] in
@[simp] theorem files_logged (directive : Directive) (result : Except Failure Response) (world : World τ) :
    (logged directive result world).files = world.files := by
  obtain ⟨log, hlogged⟩ := exists_log directive result world
  rw [hlogged]

theorem keeps_fetch (h : gateway.LooksUp P) (directive : Directive) (timeout? : Option Duration)
    (sourceId? : Option String) : Session.Keeps (τ := τ) P (gateway.fetch directive timeout? sourceId?) := by
  intro world hp
  rcases fetch_cases gateway directive timeout? sourceId? world with
    ⟨failure, -, hf⟩ | ⟨span, origin, sent, result, world', -, -, -, course, hf⟩
  · rw [hf, files_logged]
    exact hp
  · rw [hf, files_logged]
    exact course.keeps h hp

end Gateway

/-! ### Reading documents -/

namespace Client

open Gateway (Session LooksUp keeps_fetch)
open Gateway.Session

variable {τ : Type} [Clock τ] {P : FileSystem → Prop} {client : Client}

theorem preserves_cookieFields (h : client.gateway.LooksUp P) (source : Source) (headers : Headers) (url : String) :
    Preserves P (client.cookieFields source headers url) := by
  unfold cookieFields
  split
  next store hs =>
    split
    next => exact .pure _
    next => exact .bind (h store hs source.id url) fun _ => .pure _
  next => exact .pure _

omit [Clock τ] in
theorem keeps_resolve (h : client.gateway.LooksUp P) (source : Source) (directive : Directive) :
    Keeps (τ := τ) P (client.resolve source directive) := by
  unfold resolve
  extract_lets send
  have hsend (url : String) : Keeps P (send url) := by
    refine .bind (keeps_ofNoted _) fun _ => ?_
    dsimp only
    split
    next => exact .pure _
    next =>
      split
      next => exact .pure _
      next => exact .bind (keeps_ofFiled (preserves_cookieFields h source _ url)) fun _ => .pure _
  split
  next => exact .bind (keeps_ofFault _) hsend
  next => exact .bind (.pure _) hsend

theorem keeps_document (h : client.gateway.LooksUp P) (source? : Option Source) (raw : String)
    (timeout? : Option Duration) : Keeps (τ := τ) P (client.document source? raw timeout?) := by
  unfold document
  refine .bind (keeps_ofNoted _) fun requested => ?_
  cases source? with
  | none =>
    exact .bind (.pure _) fun directive => .bind (keeps_fetch h directive timeout? _) fun _ =>
      .bind (.pure requested.url) fun _ => .pure _
  | some source =>
    refine .bind (keeps_resolve h source requested) fun directive =>
      .bind (keeps_fetch h directive timeout? _) fun _ => ?_
    dsimp only
    split
    next => exact .bind (.pure _) fun _ => .pure _
    next => exact .bind (keeps_ofFault _) fun _ => .pure _

end Client

end SiteReader
