import SiteReader.Text.Basic
import SiteReader.Text.Range
import SiteReader.Text.Table.Alphanumeric
import SiteReader.Text.Table.DecimalZero
import SiteReader.Text.Table.Unprintable

/-!
# Classes of characters

Blanks, decimal digits of every script, letters and numbers, characters with a visible form.  Texts are trimmed
of blanks in the sense of this module.
-/

namespace SiteReader.Text

/-- White space of every script; the four separators U+001C to U+001F and the next line U+0085 count. -/
def isBlank (c : Char) : Bool :=
  let n := c.toNat
  (9 ≤ n && n ≤ 13) || (28 ≤ n && n ≤ 32) || n == 0x85 || n == 0xA0 || n == 0x1680 ||
    (0x2000 ≤ n && n ≤ 0x200A) || n == 0x2028 || n == 0x2029 || n == 0x202F || n == 0x205F || n == 0x3000

/-- White space within ASCII, the separators U+001C to U+001F not among it. -/
def isAsciiBlank (c : Char) : Bool :=
  let n := c.toNat
  (9 ≤ n && n ≤ 13) || n == 32

def isAscii (c : Char) : Bool :=
  c.toNat < 128

/-- The value of a decimal digit of any script. -/
def digitValue? (c : Char) : Option Nat :=
  let n := c.toNat
  if n < 128 then if 48 ≤ n && n ≤ 57 then some (n - 48) else none
  else (decimalZeros.find? fun z => z ≤ n && n < z + 10).map (n - ·)

/-- A decimal digit of any script. -/
def isDecimal (c : Char) : Bool :=
  (digitValue? c).isSome

def isAsciiLetter (c : Char) : Bool :=
  let n := c.toNat
  (65 ≤ n && n ≤ 90) || (97 ≤ n && n ≤ 122)

def isAsciiDigit (c : Char) : Bool :=
  let n := c.toNat
  48 ≤ n && n ≤ 57

def isAsciiAlphanumeric (c : Char) : Bool :=
  isAsciiLetter c || isAsciiDigit c

/-- A letter or a number of any script. -/
def isAlphanumeric (c : Char) : Bool :=
  if c.toNat < 128 then isAsciiAlphanumeric c else alphanumericRanges.has c.toNat

/-- A letter, a number or the low line. -/
def isWord (c : Char) : Bool :=
  c == '_' || isAlphanumeric c

/-- A character with a visible form, or the space. -/
def isPrintable (c : Char) : Bool :=
  if c.toNat < 128 then 32 ≤ c.toNat && c.toNat < 127 else !unprintableRanges.has c.toNat

/-- The value of a hexadecimal digit. -/
def hexValue? (c : Char) : Option Nat :=
  let n := c.toNat
  if 48 ≤ n && n ≤ 57 then some (n - 48)
  else if 97 ≤ n && n ≤ 102 then some (n - 87)
  else if 65 ≤ n && n ≤ 70 then some (n - 55)
  else none

/-- The text without blanks at either end. -/
def trim (cs : List Char) : List Char :=
  trimBoth isBlank cs

/-- The text without blanks at its start. -/
def trimStart (cs : List Char) : List Char :=
  cs.dropWhile isBlank

/-- The text without blanks at its end. -/
def trimEnd (cs : List Char) : List Char :=
  trimRight isBlank cs

end SiteReader.Text

/-- The string without blanks at either end. -/
def SiteReader.trimmed (s : String) : String :=
  String.ofList (SiteReader.Text.trim s.toList)
