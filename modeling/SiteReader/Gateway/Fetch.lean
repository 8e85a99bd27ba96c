import SiteReader.Directive.Basic
import SiteReader.Gateway.Destination
import SiteReader.Gateway.Response
import SiteReader.Gateway.Session
import SiteReader.Url.Join

/-!
# Fetching

A fetch checks its destination, sends the request, follows redirects up to a limit with a check of each new
destination, reads the body, and hands back what the policy lets through.  It works against a deadline that covers all
of it, and leaves one line in the log.
-/

namespace SiteReader

/-- A policy, the resolver for its checks, and the store whose cookies are sent. -/
structure Gateway where
  config : Gateway.Config
  resolver : Gateway.Resolver
  store? : Option CredentialStore

namespace Gateway

variable {τ : Type} [Clock τ]

/-! ### Header fields -/

/-- The fields that are texts. -/
def textHeaders (fields : List (String × Tree)) : Headers :=
  fields.filterMap fun (key, value) => match value with
    | .text s => some (key, s)
    | _ => none

/-- The fields of a request: the defaults, the allowed ones of the caller, and the cookie of the source where neither
has one. -/
def requestHeaders (gateway : Gateway) (headers : Headers) (url : String) (sourceId? : Option String) :
    Filed Headers := do
  let merged := gateway.config.defaultHeaders.distinct.merge (headers.only gateway.config.requestHeaders)
  match sourceId?, gateway.store? with
  | some sourceId, some store =>
    if sourceId.isEmpty || merged.names "cookie" then return merged
    else
      let cookie ← store.cookieFor sourceId url
      return if cookie.isEmpty then merged else merged.set "Cookie" cookie
  | _, _ => return merged

/-- The fields that are handed back, with those that let pages of any origin read the answer. -/
def responseHeaders (gateway : Gateway) (headers : Headers) : Headers :=
  updateEntries (headers.only gateway.config.responseHeaders) corsHeaders

/-! ### One request -/

/-- Checks a destination as hosts are looked up at present. -/
def approve (gateway : Gateway) (url : String) : Session τ Unit := do
  Session.ofExcept (checkDestination gateway.config (← Session.resolver gateway.resolver) url)

/-- The failure that a disruption while sending amounts to. -/
def sendFailure (limit : Duration) (disruption : Disruption) : Failure :=
  if disruption.kind.isTimeout then .timedOut limit else .upstream (.transport disruption.reason)

/-- The failure that a disruption while reading a body amounts to. -/
def readFailure (limit : Duration) (disruption : Disruption) : Failure :=
  if disruption.kind.isConnection && disruption.kind.hidesTimeout then .timedOut limit
  else .upstream (.transport disruption.reason)

/-- Sends a request with the time that is left, and waits for its reply. -/
def send (method url : String) (headers : Headers) (body? : Option String) (deadline : τ) (limit : Duration) :
    Session τ Reply := do
  let remaining := Clock.sub deadline (← get).now
  if !Clock.isLess Clock.zero remaining then throw (.timedOut limit)
  modify fun world =>
    { world with requests := world.requests ++ [⟨method, url, headers, body?, remaining, false, false⟩] }
  let reply ← Session.nextReply
  Session.wait reply.cost
  match reply.disruption? with
  | some disruption => throw (sendFailure limit disruption)
  | none => return reply

/-- Reads the parts of a body up to its end or the deadline. -/
def readChunks (deadline : τ) (limit : Duration) : List Chunk → Session τ ByteArray
  | [] => pure ByteArray.empty
  | chunk :: rest => do
    Session.wait chunk.cost
    match chunk.disruption? with
    | some disruption => throw (readFailure limit disruption)
    | none => do
      if Clock.isLess deadline (← get).now then throw (.timedOut limit)
      return chunk.bytes ++ (← readChunks deadline limit rest)

/-- Closes the reply once a computation has ended, in whatever way. -/
def closing {α : Type} (x : Session τ α) : Session τ α := do
  let result ← try Except.ok <$> x catch failure => pure (Except.error failure)
  Session.closeReply
  Session.ofExcept result

/-! ### The whole exchange -/

/-- A request that a chain of redirects has come to. -/
structure Hop where
  method : String
  url : String
  headers : Headers
  body? : Option String

/-- The place that a reply sends the client to, if it does. -/
def Reply.location? (reply : Reply) : Option String :=
  if redirectStatuses.contains reply.status then
    match reply.headers.distinct.value? "Location" with
    | some location => if location.isEmpty then none else some location
    | none => none
  else none

/-- The authority of a URL. -/
def authorityOf (url : String) : Except Fault (List Char) :=
  (Url.split url.toList).map (·.authority)

/-- The hop without the caller's secrets when it has left the origin. -/
def Hop.confined (hop : Hop) (origin : List Char) : Except Fault Hop := do
  if (← authorityOf hop.url) = origin then return hop
  else return { hop with headers := hop.headers.without secretHeaders }

/-- The hop after a redirect: a GET without body where the status asks for one. -/
def Hop.next (hop : Hop) (status : Int) (url : String) : Hop :=
  if status = 303 || ((status = 301 || status = 302) && hop.method = "POST") then
    { hop with url, method := "GET", body? := none }
  else { hop with url }

/-- Fields that describe the body as it was transferred. -/
def transferHeaders : List String := ["content-encoding", "content-length"]

/-- The answer that a reply and its body make, if its status is one of success. -/
def answerOf (reply : Reply) (url : String) (body : ByteArray) : Except Failure Response :=
  if 200 ≤ reply.status && reply.status < 300 then
    .ok ⟨reply.status, updateEntries (reply.headers.distinct.without transferHeaders)
      [("Content-Length", toString body.size)], body⟩
  else .error (.upstream (.answered reply.status url))

/-- What a reply leads to: its body, or the place it sends the client to. -/
def followUp (reply : Reply) (deadline : τ) (limit : Duration) : Session τ (ByteArray ⊕ String) :=
  closing <| match reply.location? with
    | some location => pure (.inr location)
    | none => Sum.inl <$> readChunks deadline limit reply.chunks

/-- Sends the request of a hop, and gives the answer or, with the hop as it was sent, the status and the place of a
redirect. -/
def visit (gateway : Gateway) (origin : List Char) (deadline : τ) (limit : Duration) (sourceId? : Option String)
    (hop : Hop) : Session τ (Response ⊕ (Hop × Int × String)) := do
  let hop ← Session.ofFault (hop.confined origin)
  let headers ← Session.ofFiled (gateway.requestHeaders hop.headers hop.url sourceId?)
  let reply ← send hop.method hop.url headers hop.body? deadline limit
  match ← followUp reply deadline limit with
  | .inl body => Sum.inl <$> Session.ofExcept (answerOf reply hop.url body)
  | .inr location => return .inr (hop, reply.status, location)

/-- The hop that a redirect leads to, once its destination is checked. -/
def redirect (gateway : Gateway) (hop : Hop) (status : Int) (location : String) : Session τ Hop := do
  let url ← Session.ofFault (Url.join hop.url location)
  gateway.approve url
  return hop.next status url

/-- Sends a request and follows redirects, as many as are still allowed. -/
def exchange (gateway : Gateway) (origin : List Char) (deadline : τ) (limit : Duration) (sourceId? : Option String) :
    Nat → Hop → Session τ Response
  | 0, hop => do
    match ← gateway.visit origin deadline limit sourceId? hop with
    | .inl response => return response
    | .inr _ => throw (.upstream (.redirects gateway.config.maxRedirects))
  | left + 1, hop => do
    match ← gateway.visit origin deadline limit sourceId? hop with
    | .inl response => return response
    | .inr (hop, status, location) =>
      exchange gateway origin deadline limit sourceId? left (← gateway.redirect hop status location)

/-- Checks a destination and runs the exchange against its deadline. -/
def attempt (gateway : Gateway) (method : String) (directive : Directive) (limit : Duration) (sourceId? : Option String) :
    Session τ Response := do
  gateway.approve directive.url
  let deadline := Clock.add (← get).now (← Session.span limit)
  let origin ← Session.ofFault (authorityOf directive.url)
  gateway.exchange origin deadline limit sourceId? gateway.config.maxRedirects.toNat
    ⟨method, directive.url, directive.headers, directive.dispatchBody?⟩

/-- The method of a directive in upper case, GET if it has none. -/
def methodOf (directive : Directive) : String :=
  uppered (if directive.method.isEmpty then "GET" else directive.method)

/-- The time limit of a fetch, the usual one if none is asked for. -/
def limitFor (gateway : Gateway) (timeout? : Option Duration) : Duration :=
  match timeout? with
  | some duration => if duration.isZero then gateway.config.defaultTimeout else duration
  | none => gateway.config.defaultTimeout

/-- Fetches what a directive asks for, within a time limit. -/
def fetch (gateway : Gateway) (directive : Directive) (timeout? : Option Duration) (sourceId? : Option String) :
    Session τ Response := do
  let method := methodOf directive
  let response ← tryCatch (gateway.attempt method directive (gateway.limitFor timeout?) sourceId?) fun failure => do
    match failure.kind? with
    | some kind => Session.record (.failed method directive.url kind)
    | none => pure ()
    throw failure
  Session.record (.fetched method directive.url response.status)
  return { response with headers := gateway.responseHeaders response.headers }

/-! ### Serving requests -/

/-- The timeout of a payload in whole milliseconds. -/
def payloadTimeout : Option Tree → Except Failure (Option Int)
  | none => .ok none
  | some .null => .ok none
  | some (.integer n) => if n ≤ 0 then .error (.invalidRequest .timeout) else .ok (some n)
  | some (.double x) =>
    if !Double.isLess .zero x && x ≠ .nan then .error (.invalidRequest .timeout)
    else match x with
      | .nan => .error (.fault .notANumber)
      | .infinite _ => .error (.fault .overflow)
      | x => .ok x.truncate?
  | some _ => .error (.invalidRequest .timeout)

/-- The directive and the timeout that a payload asks for. -/
def readPayload : Tree → Except Failure (Directive × Option Int)
  | .object fields => do
    let url ← match Tree.field? "url" fields with
      | some (.text url) => if url.isEmpty then throw (.invalidRequest .noUrl) else pure url
      | _ => throw (.invalidRequest .noUrl)
    let headers ← match Tree.field? "headers" fields with
      | none => pure []
      | some (.object headers) => pure headers
      | some t => if t.isTruthy then throw (.invalidRequest .headers) else pure []
    let body? ← match Tree.field? "body" fields with
      | none => pure none
      | some .null => pure none
      | some (.text body) => pure (some body)
      | some _ => throw (.invalidRequest .body)
    let timeout? ← payloadTimeout (Tree.field? "timeout" fields)
    let method := match Tree.field? "method" fields with
      | some t => if t.isTruthy then uppered t.plainText else "GET"
      | none => "GET"
    return (⟨url, method, textHeaders headers, body?⟩, timeout?)
  | _ => .error (.invalidRequest .notObject)

/-- Serves a request given as a payload.  A failure of some kind becomes an answer that reports it. -/
def handle (gateway : Gateway) (payload : Tree) : Session τ Response :=
  tryCatch
    (do
      let (directive, timeout?) ← Session.ofExcept (readPayload payload)
      gateway.fetch directive (timeout?.map .whole) none)
    fun failure => match failure.kind? with
      | some _ => pure failure.report.response
      | none => throw failure

end Gateway

end SiteReader
