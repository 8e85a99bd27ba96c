import SiteReader.Text.Class

/-!
# IPv4 addresses

An address is a number of 32 bits.  It is written as a dotted quad and read from two forms: the strict dotted quad, and
the loose form of one to four numbers, each decimal, octal or hexadecimal, of which the last fills the remaining bytes.
-/

namespace SiteReader

structure Ipv4 where
  value : Nat
  value_lt : value < 4294967296
deriving DecidableEq

namespace Ipv4

def ofNat? (n : Nat) : Option Ipv4 :=
  if h : n < 4294967296 then some ⟨n, h⟩ else none

/-! ### Writing -/

def decimal (n : Nat) : List Char :=
  Nat.toDigits 10 n

/-- The four bytes of an address. -/
def octets (a : Ipv4) : List Nat :=
  [a.value / 16777216, a.value / 65536 % 256, a.value / 256 % 256, a.value % 256]

/-- The dotted quad of an address. -/
def dotted (a : Ipv4) : List Char :=
  Text.join ['.'] (a.octets.map decimal)

/-! ### Reading the strict form -/

/-- The value of a text of digits in some base. -/
def digitsValue (base : Nat) (cs : List Char) : Nat :=
  cs.foldl (fun n c => base * n + (Text.hexValue? c).getD 0) 0

/-- A decimal byte of at most three digits, without needless zeros. -/
def octet? (cs : List Char) : Option Nat :=
  if cs.isEmpty || !cs.all Text.isAsciiDigit || 3 < cs.length then none
  else if cs.head? = some '0' && cs.length ≠ 1 then none
  else
    let n := digitsValue 10 cs
    if n < 256 then some n else none

/-- Reads a dotted quad. -/
def strict? (cs : List Char) : Option Ipv4 :=
  match (Text.splitOn ['.'] cs).map octet? with
  | [some a, some b, some c, some d] => ofNat? (((a * 256 + b) * 256 + c) * 256 + d)
  | _ => none

/-! ### Reading the loose form -/

def isOctalDigit (c : Char) : Bool :=
  '0'.toNat ≤ c.toNat && c.toNat ≤ '7'.toNat

def isHexDigit (c : Char) : Bool :=
  (Text.hexValue? c).isSome

/-- Splits off the digits of a number in some base, with its value. -/
def takeNumber (base : Nat) (p : Char → Bool) (cs : List Char) : Nat × List Char :=
  (digitsValue base (cs.takeWhile p), cs.dropWhile p)

/-- Splits off a number: hexadecimal after `0x`, octal after another zero, else decimal. -/
def part? : List Char → Option (Nat × List Char)
  | '0' :: x :: h :: r =>
    if (x = 'x' || x = 'X') && isHexDigit h then some (takeNumber 16 isHexDigit (h :: r))
    else some (takeNumber 8 isOctalDigit ('0' :: x :: h :: r))
  | c :: r =>
    if c = '0' then some (takeNumber 8 isOctalDigit (c :: r))
    else if Text.isAsciiDigit c then some (takeNumber 10 Text.isAsciiDigit (c :: r))
    else none
  | [] => none

/-- Splits off numbers between points, of which `more` may follow the first one.  All but the last are bytes. -/
def parts? : Nat → List Char → Option (List Nat × List Char)
  | 0, cs => do
    let (n, rest) ← part? cs
    match rest with
    | '.' :: _ => none
    | _ => some ([n], rest)
  | more + 1, cs => do
    let (n, rest) ← part? cs
    match rest with
    | '.' :: r =>
      if 255 < n then none
      else (parts? more r).map fun (ns, rest) => (n :: ns, rest)
    | _ => some ([n], rest)

/-- The value of the parts, of which the last fills the remaining bytes; `width` is the number of bytes left. -/
def partsValue? : Nat → List Nat → Option Nat
  | _, [] => none
  | width, [n] => if n < Nat.pow 256 width then some n else none
  | width + 1, n :: rest => (partsValue? width rest).map (n * Nat.pow 256 width + ·)
  | 0, _ :: _ => none

/-- Reads an address in the loose form.  Text after a blank is not looked at. -/
def loose? (cs : List Char) : Option Ipv4 := do
  let (ns, rest) ← parts? 3 cs
  match rest with
  | [] => partsValue? 4 ns >>= ofNat?
  | c :: _ => if Text.isAsciiBlank c then partsValue? 4 ns >>= ofNat? else none

/-! ### Address blocks -/

/-- Whether the address belongs to the block of addresses that share the first `bits` bits of `start`. -/
def inBlock (a : Ipv4) (start : Nat × Nat × Nat × Nat) (bits : Nat) : Bool :=
  let (b, c, d, e) := start
  let base := ((b * 256 + c) * 256 + d) * 256 + e
  a.value / Nat.pow 2 (32 - bits) == base / Nat.pow 2 (32 - bits)

/-- Addresses that are not meant for the public network. -/
def isPrivate (a : Ipv4) : Bool :=
  [((0, 0, 0, 0), 8), ((10, 0, 0, 0), 8), ((127, 0, 0, 0), 8), ((169, 254, 0, 0), 16), ((172, 16, 0, 0), 12),
    ((192, 0, 0, 0), 24), ((192, 0, 2, 0), 24), ((192, 168, 0, 0), 16), ((198, 18, 0, 0), 15),
    ((198, 51, 100, 0), 24), ((203, 0, 113, 0), 24), ((240, 0, 0, 0), 4)].any (fun (start, bits) =>
      a.inBlock start bits) &&
    !a.inBlock (192, 0, 0, 9) 32 && !a.inBlock (192, 0, 0, 10) 32

/-- Private, loopback, link-local, reserved, multicast and unspecified addresses. -/
def isSpecial (a : Ipv4) : Bool :=
  a.isPrivate || a.inBlock (127, 0, 0, 0) 8 || a.inBlock (169, 254, 0, 0) 16 || a.inBlock (240, 0, 0, 0) 4 ||
    a.inBlock (224, 0, 0, 0) 4 || a.value == 0

end Ipv4

end SiteReader
