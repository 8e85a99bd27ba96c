import SiteReader.Charset.GbkTable
import SiteReader.Charset.Utf16
import SiteReader.Text.Case

/-!
# Character sets

The character sets that pages are sent in, the names they go by, and lenient decoding: what cannot be decoded becomes a
replacement character.
-/

namespace SiteReader

inductive Charset where
  | utf8 | utf8Marked | utf16 | utf16Little | utf16Big | ascii | latin1 | windows1252 | gbk | gb2312
deriving DecidableEq, Repr

namespace Charset

/-! ### Names -/

/-- A name in lower case with one low line for each run of other characters than letters, digits and points. -/
def plainName (name : String) : String :=
  let words := Text.fields (fun c => !(Text.isAlphanumeric c || c = '.')) (Text.lower name.toList)
  String.ofList (Text.join ['_'] (words.map (·.filter Text.isAscii)))

/-- The names of each character set, in plain form. -/
def names : List (Charset × List String) := [
  (utf8, ["utf_8", "utf8", "u8", "utf", "utf8_ucs2", "utf8_ucs4", "cp65001"]),
  (utf8Marked, ["utf_8_sig"]),
  (utf16, ["utf_16", "utf16", "u16"]),
  (utf16Little, ["utf_16_le", "utf_16le", "unicodelittleunmarked"]),
  (utf16Big, ["utf_16_be", "utf_16be", "unicodebigunmarked"]),
  (ascii, ["ascii", "us_ascii", "us", "646", "ansi_x3.4_1968", "ansi_x3_4_1968", "ansi_x3.4_1986", "cp367", "csascii",
    "ibm367", "iso646_us", "iso_646.irv_1991", "iso_ir_6"]),
  (latin1, ["latin_1", "latin1", "latin", "l1", "iso8859_1", "iso_8859_1", "iso8859", "8859", "cp819", "csisolatin1",
    "ibm819", "iso_8859_1_1987", "iso_ir_100"]),
  (windows1252, ["cp1252", "windows_1252", "1252"]),
  (gbk, ["gbk", "cp936", "936", "ms936"]),
  (gb2312, ["gb2312", "chinese", "csiso58gb231280", "euc_cn", "euccn", "eucgb2312_cn", "gb2312_1980", "gb2312_80",
    "iso_ir_58", "x_mac_simp_chinese"])]

/-- The character set of a name. -/
def ofName? (name : String) : Option Charset :=
  let plain := plainName name
  (names.find? fun (_, known) => known.contains plain).map (·.1)

/-! ### Decoding -/

/-- The characters of windows-1252 from 0x80 to 0x9F. -/
def windows1252Row : List Nat := [
  0x20AC, 0xFFFD, 0x201A, 0x0192, 0x201E, 0x2026, 0x2020, 0x2021, 0x02C6, 0x2030, 0x0160, 0x2039, 0x0152, 0xFFFD,
  0x017D, 0xFFFD, 0xFFFD, 0x2018, 0x2019, 0x201C, 0x201D, 0x2022, 0x2013, 0x2014, 0x02DC, 0x2122, 0x0161, 0x203A,
  0x0153, 0xFFFD, 0x017E, 0x0178]

def windows1252Char (b : UInt8) : Char :=
  if 0x80 ≤ b && b < 0xA0 then Char.ofNat (windows1252Row.getD (b.toNat - 0x80) 0xFFFD) else Char.ofNat b.toNat

/-- The rows of the double-byte characters, for looking up by position. -/
def gbkArrays : Array (Array Char) :=
  (gbkRows.map fun row => row.toList.toArray).toArray

/-- The character of two bytes in GBK. -/
def gbkPair? (a b : UInt8) : Option Char := do
  if a < 0x81 || b < 0x40 then none
  let row ← gbkArrays[a.toNat - 0x81]?
  let c ← row[b.toNat - 0x40]?
  if c = replacement then none else some c

/-- The character of two bytes in GB 2312, whose rows lack some of the characters that GBK has in them. -/
def gb2312Pair? (a b : UInt8) : Option Char :=
  let lacks (row low high : UInt8) : Bool := a = row && low ≤ b && b ≤ high
  if a < 0xA1 || 0xF7 < a || b < 0xA1 then none
  else if a = 0xA1 && b = 0xA4 then some '\u30FB'
  else if a = 0xA1 && b = 0xAA then some '\u2015'
  else if lacks 0xA2 0xA1 0xAA || lacks 0xA6 0xE0 0xEB || lacks 0xA6 0xEE 0xF2 || lacks 0xA6 0xF4 0xF5 ||
      lacks 0xA8 0xBB 0xBB || lacks 0xA8 0xBD 0xBE || lacks 0xA8 0xC0 0xC0 then none
  else gbkPair? a b

/-- Decodes a set of characters of one byte, which are those of ASCII, and of two bytes. -/
def doubleByte (pair? : UInt8 → UInt8 → Option Char) : List UInt8 → List Char
  | [] => []
  | [a] => [if a < 0x80 then Char.ofNat a.toNat else replacement]
  | a :: b :: r =>
    if a < 0x80 then Char.ofNat a.toNat :: doubleByte pair? (b :: r)
    else match pair? a b with
      | some c => c :: doubleByte pair? r
      | none => replacement :: doubleByte pair? (b :: r)

/-- Decodes bytes. -/
def decode (charset : Charset) (bytes : List UInt8) : List Char :=
  match charset with
  | .utf8 => decodeUtf8 bytes
  | .utf8Marked => match bytes with
    | 0xEF :: 0xBB :: 0xBF :: r => decodeUtf8 r
    | _ => decodeUtf8 bytes
  | .utf16 => decodeUtf16Marked bytes
  | .utf16Little => decodeUtf16 .little bytes
  | .utf16Big => decodeUtf16 .big bytes
  | .ascii => bytes.map fun b => if b < 0x80 then Char.ofNat b.toNat else replacement
  | .latin1 => bytes.map fun b => Char.ofNat b.toNat
  | .windows1252 => bytes.map windows1252Char
  | .gbk => doubleByte gbkPair? bytes
  | .gb2312 => doubleByte gb2312Pair? bytes

end Charset

end SiteReader
