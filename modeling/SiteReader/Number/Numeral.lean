import SiteReader.Number.Double
import SiteReader.Text.Class

/-!
# Numerals

Reading integers and decimals from texts that people write: blanks around them, a sign, digits of any script, and
single low lines between digits.  Integers of more than 4300 digits are not read.
-/

namespace SiteReader.Numeral

/-- The greatest number of digits of an integer that is read. -/
def digitLimit : Nat := 4300

/-- The value of a text of decimal digits of any script. -/
def value (cs : List Char) : Nat :=
  cs.foldl (fun n c => 10 * n + (Text.digitValue? c).getD 0) 0

/-- The value of a text of decimal digits, if there are not too many. -/
def bounded? (cs : List Char) : Option Nat :=
  if cs.length ≤ digitLimit then some (value cs) else none

/-- Decimal text of an integer. -/
def ofInt (n : Int) : List Char :=
  if n < 0 then '-' :: Nat.toDigits 10 n.natAbs else Nat.toDigits 10 n.natAbs

/-! ### Preparing the text -/

/-- Outside ASCII, a digit of any script becomes the one of ASCII, a blank becomes a space, and any other character
becomes a question mark. -/
def toAscii (cs : List Char) : List Char :=
  cs.map fun c =>
    if Text.isAscii c then c
    else if Text.isBlank c then ' '
    else match Text.digitValue? c with
      | some d => Char.ofNat (48 + d)
      | none => '?'

/-- The text without blanks around it, in ASCII. -/
def prepared (cs : List Char) : List Char :=
  Text.trimBoth Text.isAsciiBlank (toAscii cs)

/-- Removes the low lines of a text, each of which has to stand between two digits.  `previous` is the character
before the text. -/
def dropLowLines? (previous : Char) : List Char → Option (List Char)
  | [] => if previous = '_' then none else some []
  | c :: r =>
    if c = '_' then if Text.isAsciiDigit previous then dropLowLines? c r else none
    else if previous = '_' && !Text.isAsciiDigit c then none
    else (dropLowLines? c r).map (c :: ·)

/-- Splits off a sign: whether it is a minus, and the text after it. -/
def sign : List Char → Bool × List Char
  | '-' :: r => (true, r)
  | '+' :: r => (false, r)
  | cs => (false, cs)

/-! ### Integers -/

/-- Reads an integer. -/
def integer? (cs : List Char) : Option Int := do
  let plain ← dropLowLines? ' ' (prepared cs)
  let (negative, digits) := sign plain
  if digits.isEmpty || !digits.all Text.isAsciiDigit then none
  let n ← bounded? digits
  return if negative then -(Int.ofNat n) else Int.ofNat n

/-! ### Decimals -/

/-- Splits off an exponent at the end of a decimal; `none` if the text after the digits is anything else. -/
def exponent? : List Char → Option Int
  | [] => some 0
  | c :: r =>
    if c = 'e' || c = 'E' then
      let (negative, digits) := sign r
      if digits.isEmpty || !digits.all Text.isAsciiDigit then none
      else some (if negative then -(Int.ofNat (value digits)) else Int.ofNat (value digits))
    else none

/-- Reads an unsigned decimal: digits, a fraction, an exponent, with at least one digit before the exponent. -/
def unsignedDecimal? (negative : Bool) (cs : List Char) : Option Double := do
  let whole := cs.takeWhile Text.isAsciiDigit
  let rest := cs.dropWhile Text.isAsciiDigit
  let (fraction, rest) := match rest with
    | '.' :: r => (r.takeWhile Text.isAsciiDigit, r.dropWhile Text.isAsciiDigit)
    | _ => ([], rest)
  if whole.isEmpty && fraction.isEmpty then none
  let power ← exponent? rest
  return Double.ofDecimal negative (value (whole ++ fraction)) (power - Int.ofNat fraction.length)

/-- Reads a decimal, an infinity or the not-a-number. -/
def decimal? (cs : List Char) : Option Double := do
  let plain ← dropLowLines? ' ' (prepared cs)
  let (negative, body) := sign plain
  let word := body.map Char.toLower
  if word = "inf".toList || word = "infinity".toList then return .infinite negative
  if word = "nan".toList then return .nan
  unsignedDecimal? negative body

end SiteReader.Numeral
