import SiteReader.Url.Basic

/-!
# Hosts

The canonical form of a host is the one that it is connected to by: lower case, no points at its end, an IPv4 address as
a dotted quad however it was spelled, an IPv6 address in its shortest text and without zone, a mapped address as the
IPv4 address that it stands for.
-/

namespace SiteReader.Host

/-- A label that makes a number: hexadecimal after `0x`, or decimal.  A line end may follow. -/
def isNumericLabel (label : List Char) : Bool :=
  let label := (Text.dropTail? ['\n'] label).getD label
  match label with
  | '0' :: 'x' :: r => r.all fun c => Text.isAsciiDigit c || ('a'.toNat ≤ c.toNat && c.toNat ≤ 'f'.toNat)
  | _ => !label.isEmpty && label.all Text.isAsciiDigit

/-- The host in lower case without points at its end. -/
def lowerCase (host : List Char) : List Char :=
  Text.trimRight (· = '.') (Text.lower host)

/-- The canonical form of a host. -/
def canonicalChars (host : List Char) : Except Fault (List Char) :=
  let name := lowerCase host
  if name.contains ':' then
    match Ipv6.parse? (name.takeWhile (· != '%')) with
    | none => .error .malformedAddress
    | some address => match address.mapped? with
      | some ipv4 => .ok ipv4.dotted
      | none => .ok address.compressed
  else if !name.isEmpty && (Text.splitOn ['.'] name).all isNumericLabel then
    match Ipv4.loose? name with
    | some address => .ok address.dotted
    | none => .error (.numericHost (String.ofList host))
  else .ok name

/-- The canonical form of a host. -/
def canonical (host : String) : Except Fault String :=
  (canonicalChars host.toList).map String.ofList

end SiteReader.Host
