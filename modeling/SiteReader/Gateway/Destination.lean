import SiteReader.Failure
import SiteReader.Gateway.Config
import SiteReader.Url.Host

/-!
# Destinations

A URL may be fetched if its scheme is `http` or `https` and its host, in canonical form, is neither on the list of
blocked hosts nor in a private range; where hosts are looked up, none of their addresses may be special either.
-/

namespace SiteReader.Gateway

/-- What looking up a host yields: its addresses, or why there are none. -/
abbrev Resolver := String → Except String (List String)

/-- What the policy looks at in a URL. -/
structure Destination where
  scheme : String
  host : String
deriving DecidableEq, Repr

/-- Reads the destination of a URL, whose port has to be valid. -/
def Destination.ofUrl (text : String) : Except Fault Destination := do
  let url ← Url.split text.toList
  let host ← Host.canonicalChars url.host
  let _ ← url.port
  return ⟨String.ofList url.scheme, String.ofList host⟩

/-- The text of an address if it is special; `none` if the text is no address. -/
def specialAddress? (text : String) : Option (Option String) :=
  let chars := text.toList.takeWhile (· != '%')
  match Ipv4.strict? chars with
  | some address => some (if address.isSpecial then some (String.ofList address.dotted) else none)
  | none => (Ipv6.parse? chars).map fun address =>
    if address.isSpecial then some (String.ofList address.compressed) else none

/-- Checks the addresses of a host one by one. -/
def checkAddresses (host : String) : List String → Except Failure Unit
  | [] => .ok ()
  | text :: rest =>
    match specialAddress? text with
    | none => .error (.fault .malformedAddress)
    | some (some address) => .error (.blocked (.privateAddress host address))
    | some none => checkAddresses host rest

/-- Looks up a host and checks its addresses. -/
def checkResolved (resolver : Resolver) (host : String) : Except Failure Unit :=
  match resolver host with
  | .error reason => .error (.upstream (.unresolved host reason))
  | .ok addresses => checkAddresses host addresses

/-- Whether a URL may be fetched. -/
def checkDestination (config : Config) (resolver : Resolver) (url : String) : Except Failure Unit :=
  match Destination.ofUrl url with
  | .error _ => .error (.blocked (.unparsableUrl url))
  | .ok destination =>
    let host := destination.host
    if destination.scheme ≠ "http" && destination.scheme ≠ "https" then
      .error (.blocked (.scheme destination.scheme))
    else if host.isEmpty then .error (.blocked (.noHost url))
    else if config.blockedHosts.contains host then .error (.blocked (.blockedHost host))
    else if config.privateHosts.any (· host) then .error (.blocked (.privateHost host))
    else if config.resolveHosts then checkResolved resolver host
    else .ok ()

/-- Whether the policy lets a URL pass.  Failures other than a refusal are no verdict. -/
def isUrlSafe (config : Config) (resolver : Resolver) (url : String) : Except Failure Bool :=
  match checkDestination config resolver url with
  | .ok () => .ok true
  | .error (.blocked _) => .ok false
  | .error failure => .error failure

end SiteReader.Gateway
