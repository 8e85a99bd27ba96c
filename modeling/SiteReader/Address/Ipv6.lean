import SiteReader.Address.Ipv4

/-!
# IPv6 addresses

An address is eight groups of 16 bits.  In its text the groups stand in hexadecimal between colons, two colons stand for
groups of zeros, and the last two groups may stand as a dotted quad.  It is written in lower case with the longest run
of zero groups left out.
-/

namespace SiteReader

structure Ipv6 where
  groups : List Nat
  size_eq : groups.length = 8
  groups_lt : ∀ g ∈ groups, g < 65536
deriving DecidableEq

namespace Ipv6

def ofGroups? (groups : List Nat) : Option Ipv6 :=
  if h : groups.length = 8 ∧ ∀ g ∈ groups, g < 65536 then some ⟨groups, h.1, h.2⟩ else none

/-! ### Writing -/

def hex (n : Nat) : List Char :=
  Nat.toDigits 16 n

/-- The number of zeros at the start of a list. -/
def zeroRun (gs : List Nat) : Nat :=
  (gs.takeWhile (· == 0)).length

/-- Start and length of the longest run of zeros, the first of several, in a list whose first place is `index`. -/
def longestZeros (index : Nat) : List Nat → Nat × Nat
  | [] => (index, 0)
  | g :: gs =>
    let here := zeroRun (g :: gs)
    let (start, length) := longestZeros (index + 1) gs
    if length ≤ here then (index, here) else (start, length)

/-- Groups between colons. -/
def colons (gs : List Nat) : List Char :=
  Text.join [':'] (gs.map hex)

/-- The text of an address. -/
def compressed (a : Ipv6) : List Char :=
  let (start, length) := longestZeros 0 a.groups
  if length < 2 then colons a.groups
  else colons (a.groups.take start) ++ [':', ':'] ++ colons (a.groups.drop (start + length))

/-- The IPv4 address that is mapped into the last two groups after `::ffff`. -/
def mapped? (a : Ipv6) : Option Ipv4 :=
  match a.groups with
  | [0, 0, 0, 0, 0, 0xFFFF, high, low] => Ipv4.ofNat? (high * 65536 + low)
  | _ => none

/-! ### Reading -/

/-- One to four hexadecimal digits. -/
def group? (cs : List Char) : Option Nat :=
  if cs.isEmpty || !cs.all Ipv4.isHexDigit || 4 < cs.length then none else some (Ipv4.digitsValue 16 cs)

/-- The parts of a text, a dotted quad at the end counting as two groups. -/
def spread? (parts : List (List Char)) : Option (List (List Char)) :=
  match parts.getLast? with
  | none => none
  | some last =>
    if last.contains '.' then
      (Ipv4.strict? last).map fun a => parts.dropLast ++ [hex (a.value / 65536), hex (a.value % 65536)]
    else some parts

/-- The parts before and after the first empty part that is neither the first nor the last. -/
def cutAtGap? : List (List Char) → Option (List (List Char) × List (List Char))
  | a :: b :: c :: r =>
    if b.isEmpty then some ([a], c :: r)
    else (cutAtGap? (b :: c :: r)).map fun (before, after) => (a :: before, after)
  | _ => none

/-- The parts beside a gap, of which the outermost may be empty only if there is no other on its side. -/
def beside (outer? : Option (List Char)) (parts : List (List Char)) : Option (List (List Char)) :=
  match outer? with
  | some [] => if parts.length = 1 then some [] else none
  | _ => some parts

/-- The address whose groups stand in parts, of which an empty one stands for as many zeros as are missing. -/
def ofParts? (parts : List (List Char)) : Option Ipv6 :=
  match cutAtGap? parts with
  | none => (parts.mapM group?) >>= ofGroups?
  | some (before, after) => do
    let before ← beside before.head? before
    let after ← beside after.getLast? after
    if 7 < before.length + after.length then none
    else do
      let high ← before.mapM group?
      let low ← after.mapM group?
      ofGroups? (high ++ List.replicate (8 - before.length - after.length) 0 ++ low)

/-- Reads an address without zone. -/
def parse? (cs : List Char) : Option Ipv6 :=
  let parts := Text.splitOn [':'] cs
  if parts.length < 3 then none
  else do
    let parts ← spread? parts
    if 9 < parts.length then none else ofParts? parts

/-- Whether a text is an address, which may end in a zone after a percent sign. -/
def isValidWithZone (cs : List Char) : Bool :=
  match Text.cutAtFirst '%' cs with
  | (address, zone) =>
    (parse? address).isSome && (!cs.contains '%' || (!zone.isEmpty && !zone.contains '%'))

/-! ### Address blocks -/

/-- Whether the address belongs to the block of addresses that share the first `bits` bits of `start`. -/
def inBlock (a : Ipv6) (start : List Nat) (bits : Nat) : Bool :=
  let number (gs : List Nat) : Nat := gs.foldl (fun n g => n * 65536 + g) 0
  let base := number (start ++ List.replicate (8 - start.length) 0)
  number a.groups / Nat.pow 2 (128 - bits) == base / Nat.pow 2 (128 - bits)

/-- Addresses that are not meant for the public network; a mapped IPv4 address decides for itself. -/
def isPrivate (a : Ipv6) : Bool :=
  match a.mapped? with
  | some ipv4 => ipv4.isPrivate
  | none =>
    [([0, 0, 0, 0, 0, 0, 0, 1], 128), ([0], 128), ([0x64, 0xFF9B, 1], 48), ([0x100], 64), ([0x2001], 23),
      ([0x2001, 0xDB8], 32), ([0x2002], 16), ([0xFC00], 7), ([0xFE80], 10)].any (fun (start, bits) =>
        a.inBlock start bits) &&
      !([([0x2001, 1, 0, 0, 0, 0, 0, 1], 128), ([0x2001, 1, 0, 0, 0, 0, 0, 2], 128), ([0x2001, 3], 32),
        ([0x2001, 4, 0x112], 48), ([0x2001, 0x20], 28), ([0x2001, 0x30], 28)].any fun (start, bits) =>
          a.inBlock start bits)

/-- The blocks that are reserved. -/
def isReserved (a : Ipv6) : Bool :=
  [(0, 8), (0x100, 8), (0x200, 7), (0x400, 6), (0x800, 5), (0x1000, 4), (0x4000, 3), (0x6000, 3), (0x8000, 3),
    (0xA000, 3), (0xC000, 3), (0xE000, 4), (0xF000, 5), (0xF800, 6), (0xFE00, 9)].any fun (start, bits) =>
      a.inBlock [start] bits

/-- Private, loopback, link-local, reserved, multicast and unspecified addresses. -/
def isSpecial (a : Ipv6) : Bool :=
  a.isPrivate || a.isReserved || a.inBlock [0xFE80] 10 || a.inBlock [0xFF00] 8

end Ipv6

end SiteReader
