import SiteReader.Duration
import SiteReader.Fault
import SiteReader.Path.Basic

/-!
# Failures

Each failure that callers are promised has a kind, which fixes the status an HTTP caller is answered with, and a cause
that its message tells.  A fault that no operation turned into a failure of some kind is a failure without one.
-/

namespace SiteReader

/-! ### Kinds -/

inductive FailureKind where
  | general
  | malformedRule
  | noMatch
  | blockedDestination
  | requestTimeout
  | upstreamError
  | persistenceError
  | invalidRequest
deriving DecidableEq, Repr

namespace FailureKind

/-- The word for a kind. -/
def name : FailureKind → String
  | general => "BookSourceError"
  | malformedRule => "MalformedRule"
  | noMatch => "NoMatch"
  | blockedDestination => "BlockedDestination"
  | requestTimeout => "RequestTimeout"
  | upstreamError => "UpstreamError"
  | persistenceError => "PersistenceError"
  | invalidRequest => "InvalidRequest"

/-- The status that answers a request which failed in this way. -/
def httpStatus : FailureKind → Nat
  | general => 500
  | malformedRule => 400
  | noMatch => 404
  | blockedDestination => 403
  | requestTimeout => 408
  | upstreamError => 502
  | persistenceError => 500
  | invalidRequest => 400

end FailureKind

/-! ### Causes -/

/-- Why a destination may not be fetched. -/
inductive Refusal where
  | unparsableUrl (url : String)
  | scheme (name : String)
  | noHost (url : String)
  | blockedHost (host : String)
  | privateHost (host : String)
  | privateAddress (host address : String)
deriving DecidableEq, Repr

def Refusal.message : Refusal → String
  | unparsableUrl url => "unparsable URL " ++ quotedForm url
  | scheme name => "scheme " ++ quotedForm name ++ " is not allowed"
  | noHost url => "URL " ++ quotedForm url ++ " has no host"
  | blockedHost host => "host " ++ host ++ " is blocked"
  | privateHost host => "host " ++ host ++ " is in a private range"
  | privateAddress host address => "host " ++ host ++ " resolves to " ++ address

/-- Why no usable answer came from the other side. -/
inductive UpstreamCause where
  | unresolved (host reason : String)
  | redirects (limit : Int)
  | answered (status : Int) (url : String)
  | transport (reason : String)
deriving DecidableEq, Repr

def UpstreamCause.message : UpstreamCause → String
  | unresolved host reason => "cannot resolve " ++ host ++ ": " ++ reason
  | redirects limit => "more than " ++ toString limit ++ " redirects"
  | answered status url => "upstream answered " ++ toString status ++ " for " ++ url
  | transport reason => reason

/-- Why the credential store could not be read or written. -/
inductive StoreCause where
  | recordWithoutId (record : String)
  | unreadable (path : String)
  | notJson (path : String)
  | notList (path : String)
  | unwritable (path : String)
deriving DecidableEq, Repr

def StoreCause.message : StoreCause → String
  | recordWithoutId record => "credential record without sourceId: " ++ record
  | unreadable path => "cannot read " ++ path ++ ": <os error>"
  | notJson path => path ++ " is not valid JSON: <json error>"
  | notList path => path ++ " must hold a JSON list"
  | unwritable path => "cannot write " ++ path ++ ": <os error>"

/-- What is wrong with a request that a caller made. -/
inductive RequestDefect where
  | notObject
  | noUrl
  | headers
  | body
  | timeout
  | unreadableSources (path reason : String)
  | unknownSource (id path : String)
  | disabledSource (name : String)
deriving DecidableEq, Repr

def RequestDefect.message : RequestDefect → String
  | notObject => "request body must be a JSON object"
  | noUrl => "'url' must be a non-empty string"
  | headers => "'headers' must be an object"
  | body => "'body' must be a string"
  | timeout => "'timeout' must be a positive number of milliseconds"
  | unreadableSources path reason => "cannot load sources from " ++ path ++ ": " ++ reason
  | unknownSource id path => "no book source " ++ quotedForm id ++ " in " ++ path
  | disabledSource name => "book source " ++ quotedForm name ++ " is disabled"

/-- Which rule found nothing. -/
inductive Miss where
  | list (rule : String)
  | field (rule : String)
deriving DecidableEq, Repr

def Miss.message : Miss → String
  | list rule => "list rule " ++ quotedForm rule ++ " selected nothing"
  | field rule => "rule " ++ quotedForm rule ++ " extracted nothing"

/-! ### Failures -/

inductive Failure where
  | malformedRule (defect : Path.Defect)
  | noMatch (miss : Miss)
  | blocked (refusal : Refusal)
  /-- The time limit was exceeded. -/
  | timedOut (limit : Duration)
  | upstream (cause : UpstreamCause)
  | store (cause : StoreCause)
  | invalidRequest (defect : RequestDefect)
  | fault (cause : Fault)
deriving DecidableEq, Repr

namespace Failure

def kind? : Failure → Option FailureKind
  | malformedRule .endlessIndex => none
  | malformedRule _ => some .malformedRule
  | noMatch _ => some .noMatch
  | blocked _ => some .blockedDestination
  | timedOut _ => some .requestTimeout
  | upstream _ => some .upstreamError
  | store _ => some .persistenceError
  | invalidRequest _ => some .invalidRequest
  | fault _ => none

def message : Failure → String
  | malformedRule defect => defect.message
  | noMatch miss => miss.message
  | blocked refusal => refusal.message
  | timedOut limit => "request timed out after " ++ limit.text ++ "ms"
  | upstream cause => cause.message
  | store cause => cause.message
  | invalidRequest defect => defect.message
  | fault cause => cause.message?.getD ""

/-- The status of an answer that came from the other side but was no success. -/
def upstreamStatus? : Failure → Option Int
  | upstream (.answered status _) => some status
  | _ => none

end Failure

/-! ### Reports -/

/-- What a caller is told about a failure.  A failure of no kind is an internal one. -/
structure ErrorReport where
  kind? : Option FailureKind
  message : String
  status? : Option Int
deriving DecidableEq, Repr

namespace ErrorReport

/-- The word for the kind of the failure. -/
def kindName (report : ErrorReport) : String :=
  match report.kind? with
  | some kind => kind.name
  | none => "InternalError"

/-- The status that a request is answered with. -/
def httpStatus (report : ErrorReport) : Nat :=
  match report.kind? with
  | some kind => kind.httpStatus
  | none => 500

/-- The report as a JSON object; an empty message gives way to the kind. -/
def payload (report : ErrorReport) : Tree :=
  .object <|
    [("success", .boolean false), ("error", .text report.kindName),
      ("message", .text (if report.message = "" then report.kindName else report.message))] ++
    match report.status? with
    | some status => [("status", .integer status)]
    | none => []

end ErrorReport

/-- The report of a failure. -/
def Failure.report (failure : Failure) : ErrorReport :=
  ⟨failure.kind?, failure.message, failure.upstreamStatus?⟩

end SiteReader
