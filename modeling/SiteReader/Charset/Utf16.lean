import SiteReader.Charset.Utf8

/-!
# UTF-16

Units of two bytes in either order.  Half a surrogate pair, or bytes at the end that make no unit, become replacement
characters.
-/

namespace SiteReader.Charset

inductive ByteOrder where
  | little | big
deriving DecidableEq, Repr

def unitOf (order : ByteOrder) (a b : UInt8) : Nat :=
  match order with
  | .little => a.toNat + 256 * b.toNat
  | .big => 256 * a.toNat + b.toNat

/-- Decodes bytes in the given order. -/
def decodeUtf16 (order : ByteOrder) : List UInt8 → List Char
  | [] => []
  | [_] => [replacement]
  | a :: b :: [] =>
    let unit := unitOf order a b
    if 0xD800 ≤ unit && unit < 0xE000 then [replacement] else [Char.ofNat unit]
  | a :: b :: [_] =>
    let unit := unitOf order a b
    if 0xD800 ≤ unit && unit < 0xDC00 then [replacement]
    else if 0xDC00 ≤ unit && unit < 0xE000 then [replacement, replacement]
    else [Char.ofNat unit, replacement]
  | a :: b :: c :: d :: r =>
    let unit := unitOf order a b
    if 0xD800 ≤ unit && unit < 0xDC00 then
      let low := unitOf order c d
      if 0xDC00 ≤ low && low < 0xE000 then
        Char.ofNat (0x10000 + (unit - 0xD800) * 1024 + (low - 0xDC00)) :: decodeUtf16 order r
      else replacement :: decodeUtf16 order (c :: d :: r)
    else if 0xDC00 ≤ unit && unit < 0xE000 then replacement :: decodeUtf16 order (c :: d :: r)
    else Char.ofNat unit :: decodeUtf16 order (c :: d :: r)

/-- Decodes bytes that may start with a mark of their order, which is little-endian without one. -/
def decodeUtf16Marked : List UInt8 → List Char
  | 0xFF :: 0xFE :: r => decodeUtf16 .little r
  | 0xFE :: 0xFF :: r => decodeUtf16 .big r
  | bytes => decodeUtf16 .little bytes

end SiteReader.Charset
