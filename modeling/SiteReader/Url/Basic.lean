import SiteReader.Address.Ipv6
import SiteReader.Fault
import SiteReader.Text.Case

/-!
# The parts of a URL

`Url.split` cuts a text into scheme, authority, path, query and fragment, none of which is required.  Characters up to
the space are dropped at the start, and tabs and line ends everywhere.  The authority tells the host, the text after its
last `@` without brackets and port, and the port.
-/

namespace SiteReader

structure Url where
  scheme : List Char
  authority : List Char
  path : List Char
  query : List Char
  fragment : List Char
deriving DecidableEq, Repr

namespace Url

/-! ### Checks of the authority -/

/-- The text after the last `@` of an authority. -/
def hostPort (authority : List Char) : List Char :=
  Text.afterLast '@' authority

/-- The text between the brackets or before the colon, and the text after it up to the end. -/
def hostAndRest (hostPort : List Char) : List Char × List Char :=
  if hostPort.contains '[' then
    let (host, rest) := Text.cutAtFirst ']' (Text.cutAtFirst '[' hostPort).2
    (host, rest)
  else
    (Text.cutAtFirst ':' hostPort).1 |> fun host => (host, hostPort.drop host.length)

/-- Whether a text may stand in brackets: an IPv6 address or a tagged form of the future. -/
def isBracketHost (host : List Char) : Bool :=
  match host with
  | 'v' :: r =>
    let digits := r.takeWhile Ipv4.isHexDigit
    match r.dropWhile Ipv4.isHexDigit with
    | '.' :: _ :: _ => !digits.isEmpty
    | _ => false
  | _ => Ipv6.isValidWithZone host

/-- Whether the brackets of an authority come in a pair around an address, with nothing before them and nothing but a
port after them. -/
def bracketsFit (authority : List Char) : Bool :=
  match authority.contains '[', authority.contains ']' with
  | false, false => true
  | true, true =>
    let hostPort := hostPort authority
    let (host, rest) := hostAndRest hostPort
    let outside :=
      if hostPort.contains '[' then
        (Text.cutAtFirst '[' hostPort).1.isEmpty && (rest.isEmpty || rest.head? = some ':')
      else true
    outside && isBracketHost host
  | _, _ => false

/-- Characters whose compatibility form holds one of the delimiters of an authority. -/
def disguisedDelimiters : List Nat := [
  0x2047, 0x2048, 0x2049, 0x2100, 0x2101, 0x2105, 0x2106, 0x2A74, 0xFE13, 0xFE16, 0xFE55, 0xFE56, 0xFE5F,
  0xFE6B, 0xFF03, 0xFF0F, 0xFF1A, 0xFF1F, 0xFF20]

/-! ### Splitting -/

def isSchemeChar (c : Char) : Bool :=
  Text.isAsciiAlphanumeric c || c = '+' || c = '-' || c = '.'

/-- The scheme of a text in lower case, and the text after its colon. -/
def cutScheme (default cs : List Char) : List Char × List Char :=
  let scheme := cs.takeWhile isSchemeChar
  match scheme, cs.dropWhile isSchemeChar with
  | c :: _, ':' :: rest => if Text.isAsciiLetter c then (scheme.map Char.toLower, rest) else (default, cs)
  | _, _ => (default, cs)

/-- The text without the characters that URLs ignore. -/
def cleaned (cs : List Char) : List Char :=
  (cs.dropWhile fun c => c.toNat ≤ 32).filter fun c => !(c = '\t' || c = '\r' || c = '\n')

/-- Whether a character ends an authority. -/
def endsAuthority (c : Char) : Bool :=
  c = '/' || c = '?' || c = '#'

/-- The authority after two slashes, and the text after it. -/
def cutAuthority (cs : List Char) : List Char × List Char :=
  match cs with
  | '/' :: '/' :: r => (r.takeWhile (!endsAuthority ·), r.dropWhile (!endsAuthority ·))
  | _ => ([], cs)

/-- Cuts a text into the parts of a URL, with the scheme to assume if it has none. -/
def splitWith (default cs : List Char) : Except Fault Url :=
  let (scheme, rest) := cutScheme default (cleaned cs)
  let (authority, rest) := cutAuthority rest
  if !bracketsFit authority then .error .malformedUrl
  else if authority.any fun c => disguisedDelimiters.contains c.toNat then .error .malformedUrl
  else
    let (rest, fragment) := Text.cutAtFirst '#' rest
    let (path, query) := Text.cutAtFirst '?' rest
    .ok ⟨scheme, authority, path, query, fragment⟩

/-- Cuts a text into the parts of a URL. -/
def split (cs : List Char) : Except Fault Url :=
  splitWith [] cs

/-! ### Host and port -/

/-- The host in lower case, save for a zone after a percent sign.  It is empty if there is none. -/
def host (url : Url) : List Char :=
  let (host, _) := hostAndRest (hostPort url.authority)
  Text.lower (host.takeWhile (· != '%')) ++ host.dropWhile (· != '%')

/-- The text of the port. -/
def portText (url : Url) : List Char :=
  (Text.cutAtFirst ':' (hostAndRest (hostPort url.authority)).2).2

/-- The port, if one is given: a number of ASCII digits up to 65535. -/
def port (url : Url) : Except Fault (Option Nat) :=
  let text := url.portText
  if text.isEmpty then .ok none
  else if text.all Text.isAsciiDigit then
    let significant := text.dropWhile (· = '0')
    let n := Ipv4.digitsValue 10 significant
    if text.length ≤ 4300 && significant.length ≤ 5 && n ≤ 65535 then .ok (some n) else .error .malformedUrl
  else .error .malformedUrl

end Url

end SiteReader
