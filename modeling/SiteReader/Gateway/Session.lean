import SiteReader.Credential.Store
import SiteReader.Gateway.Clock
import SiteReader.Gateway.Destination
import SiteReader.Header
import SiteReader.Notes

/-!
# The world around a gateway

What a fetch meets is scripted: the replies to its requests, with the time that each reply and each part of its body
takes, how hosts are looked up between the replies, and the files.  What it does is recorded: the requests it sends, its
log, and what the user is told.
-/

namespace SiteReader.Gateway

/-! ### What comes back -/

/-- How a transport fails: whether it runs out of time, whether its connection breaks, and whether a read that ran out of
time is behind that.  Running out of time while connecting is both of the former. -/
structure DisruptionKind where
  isTimeout : Bool
  isConnection : Bool
  hidesTimeout : Bool
deriving DecidableEq, Repr

namespace DisruptionKind

def timeout : DisruptionKind := ⟨true, false, false⟩

def connectTimeout : DisruptionKind := ⟨true, true, false⟩

/-- Out of time under the guise of a broken connection. -/
def hiddenTimeout : DisruptionKind := ⟨false, true, true⟩

def other : DisruptionKind := ⟨false, false, false⟩

end DisruptionKind

/-- A failure of the transport. -/
structure Disruption where
  kind : DisruptionKind
  reason : String
deriving DecidableEq, Repr

/-- A part of a body, which takes some time to arrive or fails to. -/
structure Chunk where
  bytes : ByteArray
  cost : Duration
  disruption? : Option Disruption

/-- The reply to a request, which takes some time to arrive or fails to. -/
structure Reply where
  status : Int
  headers : Headers
  chunks : List Chunk
  cost : Duration
  disruption? : Option Disruption

/-! ### What is done -/

/-- A request as it was handed over to the transport. -/
structure Request (τ : Type) where
  method : String
  url : String
  headers : Headers
  body? : Option String
  timeout : τ
  /-- Whether the transport may follow redirects itself. -/
  followsRedirects : Bool
  /-- Whether the reply to the request has been closed. -/
  closed : Bool

/-- A line of the log. -/
inductive LogEntry where
  | fetched (method url : String) (status : Int)
  | failed (method url : String) (kind : FailureKind)
deriving DecidableEq, Repr

/-- The text of a line of the log. -/
def LogEntry.text : LogEntry → String
  | fetched method url status => "INFO " ++ method ++ " " ++ url ++ " -> " ++ toString status
  | failed method url kind => "WARNING " ++ method ++ " " ++ url ++ " failed: " ++ kind.name

/-! ### Sessions -/

structure World (τ : Type) where
  now : τ
  replies : List Reply
  /-- The reply to every request when the others are used up. -/
  lastReply : Reply
  requests : List (Request τ)
  log : List LogEntry
  files : FileSystem
  notes : Notes
  /-- What the user is told as the work goes on. -/
  progress : List String
  /-- How hosts are looked up now and after each further reply, as long as that is not the usual way. -/
  lookups : List Resolver := []

/-- The world with the reply to the last request closed. -/
def World.closeLast {τ : Type} (world : World τ) : World τ :=
  match world.requests.getLast? with
  | some request => { world with requests := world.requests.dropLast ++ [{ request with closed := true }] }
  | none => world

/-- A computation in the world, which keeps what it has done when it fails. -/
abbrev Session (τ α : Type) := ExceptT Failure (StateM (World τ)) α

namespace Session

variable {τ α : Type}

/-- Runs a computation on the files. -/
def ofFiled (x : Filed α) : Session τ α := do
  let world ← get
  let (result, files) := x.run.run world.files
  set { world with files }
  match result with
  | .ok value => return value
  | .error failure => throw failure

/-- Runs a computation that takes notes. -/
def ofNoted (x : Noted α) : Session τ α := do
  let world ← get
  let (result, notes) := x.run.run world.notes
  set { world with notes }
  match result with
  | .ok value => return value
  | .error fault => throw (.fault fault)

/-- A computation that may fail, without effect on the world. -/
def ofExcept : Except Failure α → Session τ α
  | .ok value => pure value
  | .error failure => throw failure

/-- A computation that may end in a fault, without effect on the world. -/
def ofFault : Except Fault α → Session τ α
  | .ok value => pure value
  | .error fault => throw (.fault fault)

/-- Adds a line to the log. -/
def record (entry : LogEntry) : Session τ Unit :=
  modify fun world => { world with log := world.log ++ [entry] }

/-- Tells the user how the work goes on. -/
def tell (line : String) : Session τ Unit :=
  modify fun world => { world with progress := world.progress ++ [line] }

/-- A span of time. -/
def span [Clock τ] (duration : Duration) : Session τ τ :=
  match Clock.span? duration with
  | some span => pure span
  | none => throw (.fault .overflow)

/-- Lets time pass. -/
def wait [Clock τ] (cost : Duration) : Session τ Unit := do
  let span ← span cost
  modify fun world => { world with now := Clock.add world.now span }

/-- How hosts are looked up at present. -/
def resolver (usual : Resolver) : Session τ Resolver :=
  return (← get).lookups.headD usual

/-- Takes the next reply, with which the way that hosts are looked up may change. -/
def nextReply : Session τ Reply := do
  let world ← get
  set { world with replies := world.replies.tail, lookups := world.lookups.tail }
  return world.replies.headD world.lastReply

/-- Marks the reply to the last request as closed. -/
def closeReply : Session τ Unit :=
  modify World.closeLast

end Session

end SiteReader.Gateway
