import SiteReader.Text.Class

/-!
# Percent escapes and relays

Every byte of the UTF-8 form of a text that is no letter, digit, `_`, `.`, `-` or `~` becomes a percent sign and two
hexadecimal digits.  A relay is a URL that the escaped target is put into.
-/

namespace SiteReader.Url

/-- Characters that stand for themselves. -/
def isUnreserved (c : Char) : Bool :=
  Text.isAsciiAlphanumeric c || c = '_' || c = '.' || c = '-' || c = '~'

def upperHexDigit (n : Nat) : Char :=
  if n < 10 then Char.ofNat (48 + n) else Char.ofNat (55 + n)

/-- The escape of a byte. -/
def escapeByte (b : UInt8) : List Char :=
  ['%', upperHexDigit (b.toNat / 16), upperHexDigit (b.toNat % 16)]

/-- A character with what is reserved escaped. -/
def escapeChar (c : Char) : List Char :=
  if isUnreserved c then [c] else (String.utf8EncodeChar c).flatMap escapeByte

/-- The text with everything reserved escaped. -/
def escape (cs : List Char) : List Char :=
  cs.flatMap escapeChar

/-- The URL that reaches `url` through a relay: the escaped URL takes the place of each `{url}` in the relay or, if there
is none, becomes its last segment.  A blank relay changes nothing. -/
def throughRelayChars (url relay : List Char) : List Char :=
  let relay := Text.trim relay
  let slot := ['{', 'u', 'r', 'l', '}']
  if relay.isEmpty then url
  else if Text.hasMark slot relay then Text.replaceAll slot (escape url) relay
  else if relay.getLast? = some '/' then relay ++ escape url
  else relay ++ '/' :: escape url

/-- The URL that reaches `url` through a relay, if there is one. -/
def throughRelay (url : String) (relay? : Option String) : String :=
  String.ofList (throughRelayChars url.toList (relay?.getD "").toList)

end SiteReader.Url
