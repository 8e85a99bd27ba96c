import SiteReader.Charset.Basic
import SiteReader.Fault
import SiteReader.Markup.ReferenceTable
import SiteReader.Number.Numeral

/-!
# Character references

A character reference gives a character by its name or its number.  References in running text and in the values of
attributes are read by different rules: a value may hold a name without a semicolon even if other letters follow.
-/

namespace SiteReader.Markup

/-! ### Names -/

/-- A name with the text it stands for; `bare` tells whether it may stand without a semicolon. -/
structure NamedReference where
  name : List Char
  bare : Bool
  text : List Char

/-- Reads the code points of an entry, given in hexadecimal. -/
def codePoints (cs : List Char) : List Char :=
  (Text.splitOn ['+'] cs).map fun digits =>
    Char.ofNat (digits.foldl (fun n c => 16 * n + (Text.hexValue? c).getD 0) 0)

/-- Reads an entry of the table. -/
def namedReference (entry : List Char) : NamedReference :=
  let name := entry.takeWhile fun c => c != '=' && c != '!'
  let rest := entry.drop name.length
  ⟨name, rest.head? = some '!', codePoints (rest.drop 1)⟩

def namedReferences : List NamedReference :=
  namedReferenceLines.flatMap fun line => (Text.splitOn [' '] line.toList).map namedReference

/-- The reference of a name. -/
def named? (name : List Char) : Option NamedReference :=
  namedReferences.find? fun reference => reference.name = name

/-! ### Numbers -/

/-- The number of a reference in the given base.  There is a limit to the decimal digits. -/
def referenceNumber (base : Nat) (digits : List Char) : Except Fault Nat :=
  if base = 10 then
    match Numeral.bounded? digits with
    | some n => .ok n
    | none => .error .endlessNumeral
  else .ok (digits.foldl (fun n c => base * n + (Text.hexValue? c).getD 0) 0)

/-- Numbers from 128 to 159 are read as bytes of windows-1252, those that it lacks excepted. -/
def numberedChar (n : Nat) : Char :=
  if 0x80 ≤ n && n < 0xA0 then
    let c := Charset.windows1252Char (UInt8.ofNat n)
    if c = Charset.replacement then Char.ofNat n else c
  else if n.isValidChar then Char.ofNat n
  else Charset.replacement

/-- Numbers that stand for no character at all in a value. -/
def isVoidNumber (n : Nat) : Bool :=
  (1 ≤ n && n ≤ 8) || n = 0x0B || (0x0E ≤ n && n ≤ 0x1F) || n = 0x7F || (0xFDD0 ≤ n && n ≤ 0xFDEF) ||
    (n ≤ 0x10FFFF && 0xFFFE ≤ n % 0x10000)

/-! ### References in running text -/

/-- The text of a named reference; an unknown name stands for itself. -/
def textOfName (name : List Char) : List Char :=
  match named? name with
  | some reference => reference.text
  | none => '&' :: name

/-! ### References in values -/

/-- The text of a number in a value. -/
def textOfNumber (n : Nat) : List Char :=
  if n = 0 then [Charset.replacement] else if isVoidNumber n then [] else [numberedChar n]

/-- The longest name of at least two letters, given the length to start from, that stands at the start of a text and
may stand without a semicolon. -/
def longestBare? (cs : List Char) : Nat → Option (List Char)
  | 0 => none
  | n + 1 =>
    if n + 1 < 2 then none
    else match named? (cs.take (n + 1)) with
      | some reference =>
        if reference.bare then some (reference.text ++ cs.drop (n + 1)) else longestBare? cs n
      | none => longestBare? cs n

/-- The text of a name, with its semicolon if there is one. -/
def textOfLooseName (name : List Char) (closed : Bool) : List Char :=
  let whole := if closed then name ++ [';'] else name
  match named? name with
  | some reference =>
    if closed || reference.bare then reference.text else (longestBare? whole (whole.length - 1)).getD ('&' :: whole)
  | none => (longestBare? whole (whole.length - 1)).getD ('&' :: whole)

/-- The characters that are not part of a name. -/
def looseNameEnds : List Char := ['\t', '\n', '\x0c', ' ', '<', '&', '#', ';']

/-- The reference after an ampersand: its text and its length. -/
def looseReference (cs : List Char) : Except Fault (List Char × Nat) := do
  let numbered (base skipped : Nat) (digits : List Char) : Except Fault (List Char × Nat) := do
    let n ← referenceNumber base digits
    let closing := if (cs.drop (skipped + digits.length)).head? = some ';' then 1 else 0
    return (textOfNumber n, skipped + digits.length + closing)
  match cs with
  | '#' :: r =>
    let decimal := r.takeWhile Text.isAsciiDigit
    let hexadecimal := (r.drop 1).takeWhile fun c => (Text.hexValue? c).isSome
    if !decimal.isEmpty then numbered 10 1 decimal
    else if (r.head? = some 'x' || r.head? = some 'X') && !hexadecimal.isEmpty then numbered 16 2 hexadecimal
    else return (['&'], 0)
  | _ =>
    let name := (cs.take 32).takeWhile fun c => !looseNameEnds.contains c
    let closed := (cs.drop name.length).head? = some ';'
    if name.isEmpty then return (['&'], 0)
    else return (textOfLooseName name closed, name.length + if closed then 1 else 0)

/-- The text of a value with its references resolved; `skip` characters have been read already. -/
def resolveFrom : Nat → List Char → Except Fault (List Char)
  | _, [] => .ok []
  | skip + 1, _ :: r => resolveFrom skip r
  | 0, '&' :: r => do
    let (resolved, length) ← looseReference r
    return resolved ++ (← resolveFrom length r)
  | 0, c :: r => do return c :: (← resolveFrom 0 r)

/-- The text of a value with its references resolved. -/
def resolveValue (cs : List Char) : Except Fault (List Char) :=
  resolveFrom 0 cs

end SiteReader.Markup
