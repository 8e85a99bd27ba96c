/-!
# UTF-8

Lenient decoding: each longest start of a character that cannot be completed becomes one replacement character.
-/

namespace SiteReader.Charset

/-- The character put in place of bytes that stand for none. -/
def replacement : Char := '\uFFFD'

/-- Whether a byte may follow the first byte of a sequence directly. -/
def isSecondByte (first second : UInt8) : Bool :=
  if first = 0xE0 then 0xA0 ≤ second && second ≤ 0xBF
  else if first = 0xED then 0x80 ≤ second && second ≤ 0x9F
  else if first = 0xF0 then 0x90 ≤ second && second ≤ 0xBF
  else if first = 0xF4 then 0x80 ≤ second && second ≤ 0x8F
  else 0x80 ≤ second && second ≤ 0xBF

def isContinuation (b : UInt8) : Bool :=
  0x80 ≤ b && b ≤ 0xBF

/-- The number of bytes that follow the first byte of a sequence, and the bits of the first byte. -/
def sequenceOf? (first : UInt8) : Option (Nat × Nat) :=
  let n := first.toNat
  if n < 0x80 then some (0, n)
  else if n < 0xC2 then none
  else if n < 0xE0 then some (1, n - 0xC0)
  else if n < 0xF0 then some (2, n - 0xE0)
  else if n < 0xF5 then some (3, n - 0xF0)
  else none

/-- Takes up to `count` continuation bytes: the bits collected, how many bytes are still missing, and how many were
taken. -/
def takeContinuations : Nat → Nat → List UInt8 → Nat × Nat × Nat
  | 0, bits, _ => (bits, 0, 0)
  | count + 1, bits, [] => (bits, count + 1, 0)
  | count + 1, bits, b :: r =>
    if isContinuation b then
      let (bits, missing, taken) := takeContinuations count (bits * 64 + (b.toNat - 0x80)) r
      (bits, missing, taken + 1)
    else (bits, count + 1, 0)

/-- The character at the start of some bytes, and how many bytes after the first one belong to it. -/
def utf8Char (first : UInt8) (rest : List UInt8) : Char × Nat :=
  match sequenceOf? first with
  | none => (replacement, 0)
  | some (0, bits) => (Char.ofNat bits, 0)
  | some (count, bits) =>
    match rest with
    | [] => (replacement, 0)
    | second :: _ =>
      if isSecondByte first second then
        let (bits, missing, taken) := takeContinuations count bits rest
        if missing = 0 then (Char.ofNat bits, taken) else (replacement, taken)
      else (replacement, 0)

/-- Decodes bytes of which the first `skip` belong to a character that is done. -/
def utf8From : Nat → List UInt8 → List Char
  | _, [] => []
  | skip + 1, _ :: r => utf8From skip r
  | 0, b :: r =>
    let (c, more) := utf8Char b r
    c :: utf8From more r

/-- Decodes UTF-8. -/
def decodeUtf8 (bytes : List UInt8) : List Char :=
  utf8From 0 bytes

end SiteReader.Charset
