import SiteReader.Tree.Basic

/-!
# Reading JSON text

The reader accepts the JSON grammar and, besides, the words `NaN`, `Infinity` and `-Infinity`.  Numbers without
fraction and exponent are integers of any size up to the digit limit, all others are rounded to floating point.  A
key that is repeated inside an object keeps its first place and its last value.
-/

namespace SiteReader.Json

/-- White space between the tokens of JSON text. -/
def isSpace (c : Char) : Bool :=
  c = ' ' || c = '\t' || c = '\n' || c = '\r'

def skipSpace (cs : List Char) : List Char :=
  cs.dropWhile isSpace

/-! ### Strings -/

/-- The unit that four hexadecimal digits stand for. -/
def hexUnit? (a b c d : Char) : Option Nat := do
  let a ← Text.hexValue? a
  let b ← Text.hexValue? b
  let c ← Text.hexValue? c
  let d ← Text.hexValue? d
  return 4096 * a + 256 * b + 16 * c + d

/-- The character of an escape of one letter. -/
def escaped? (c : Char) : Option Char :=
  match c with
  | '"' => some '"'
  | '\\' => some '\\'
  | '/' => some '/'
  | 'b' => some '\x08'
  | 'f' => some '\x0c'
  | 'n' => some '\n'
  | 'r' => some '\r'
  | 't' => some '\t'
  | _ => none

def isHighSurrogate (n : Nat) : Bool := 0xD800 ≤ n && n < 0xDC00

def isLowSurrogate (n : Nat) : Bool := 0xDC00 ≤ n && n < 0xE000

/-- The character of a unit that belongs to no surrogate pair; half a pair becomes the replacement character. -/
def unitChar (n : Nat) : Char :=
  if isHighSurrogate n || isLowSurrogate n then '\uFFFD' else Char.ofNat n

/-- The characters that units stand for, two halves of a surrogate pair being one character. -/
def joinUnits : List Nat → List Char
  | [] => []
  | [n] => [unitChar n]
  | high :: low :: r =>
    if isHighSurrogate high && isLowSurrogate low then
      Char.ofNat (0x10000 + (high - 0xD800) * 1024 + (low - 0xDC00)) :: joinUnits r
    else unitChar high :: joinUnits (low :: r)

/-- Reads the units of a string up to its closing quote, and the text after it.  A unit is a code point or, in an
escape, half a surrogate pair. -/
def readUnits : List Char → Option (List Nat × List Char)
  | [] => none
  | '"' :: r => some ([], r)
  | '\\' :: 'u' :: a :: b :: c :: d :: r => do
    let unit ← hexUnit? a b c d
    let (units, rest) ← readUnits r
    return (unit :: units, rest)
  | '\\' :: e :: r => do
    let c ← escaped? e
    let (units, rest) ← readUnits r
    return (c.toNat :: units, rest)
  | c :: r => do
    if c.toNat < 32 || c = '\\' then none
    let (units, rest) ← readUnits r
    return (c.toNat :: units, rest)

/-- Reads a string after its opening quote. -/
def readString (cs : List Char) : Option (List Char × List Char) :=
  (readUnits cs).map fun (units, rest) => (joinUnits units, rest)

/-! ### Numbers -/

/-- Splits off the digits at the start of a text. -/
def digits (cs : List Char) : List Char × List Char :=
  (cs.takeWhile Text.isAsciiDigit, cs.dropWhile Text.isAsciiDigit)

/-- Splits off a fraction, if there is one: its digits and the text after it. -/
def fraction (cs : List Char) : Option (List Char) × List Char :=
  match cs with
  | '.' :: r => match digits r with
    | ([], _) => (none, cs)
    | (ds, rest) => (some ds, rest)
  | _ => (none, cs)

/-- Splits off an exponent, if there is one. -/
def exponent (cs : List Char) : Option Int × List Char :=
  match cs with
  | e :: r =>
    if e = 'e' || e = 'E' then
      let (negative, r) := Numeral.sign r
      match digits r with
      | ([], _) => (none, cs)
      | (ds, rest) =>
        let n := Int.ofNat (Numeral.value ds)
        (some (if negative then -n else n), rest)
    else (none, cs)
  | [] => (none, cs)

/-- Splits off the digits of the integral part, which starts with zero only if it is zero. -/
def wholePart? (cs : List Char) : Option (List Char × List Char) :=
  match cs with
  | '0' :: r => some (['0'], r)
  | _ => match digits cs with
    | ([], _) => none
    | found => some found

/-- Reads a number after its sign. -/
def readUnsigned (negative : Bool) (cs : List Char) : Option (Tree × List Char) := do
  let (whole, rest) ← wholePart? cs
  match fraction rest with
  | (none, rest) =>
    match exponent rest with
    | (none, rest) =>
      let n ← Numeral.bounded? whole
      return (.integer (if negative then -(Int.ofNat n) else Int.ofNat n), rest)
    | (some power, rest) => return (.double (.ofDecimal negative (Numeral.value whole) power), rest)
  | (some places, rest) =>
    let (power, rest) := exponent rest
    let value := Numeral.value (whole ++ places)
    return (.double (.ofDecimal negative value (power.getD 0 - Int.ofNat places.length)), rest)

/-- Reads a number. -/
def readNumber (cs : List Char) : Option (Tree × List Char) :=
  match cs with
  | '-' :: r => readUnsigned true r
  | _ => readUnsigned false cs

/-! ### Values -/

/-- The words that stand for a value. -/
def words : List (List Char × Tree) :=
  [("null".toList, .null), ("true".toList, .boolean true), ("false".toList, .boolean false),
    ("NaN".toList, .double .nan), ("Infinity".toList, .double (.infinite false)),
    ("-Infinity".toList, .double (.infinite true))]

/-- Reads one of the words. -/
def readWord (cs : List Char) : Option (Tree × List Char) :=
  words.findSome? fun (word, value) => (Text.dropHead? word cs).map fun rest => (value, rest)

/-- Reads a string and the colon after it, up to the start of the value. -/
def readKey : List Char → Option (String × List Char)
  | '"' :: r => do
    let (key, rest) ← readString r
    match skipSpace rest with
    | ':' :: rest => return (String.ofList key, skipSpace rest)
    | _ => none
  | _ => none

mutual

/-- Reads a value that starts with the first character. -/
def readValue : Nat → List Char → Option (Tree × List Char)
  | 0, _ => none
  | fuel + 1, cs =>
    match cs with
    | '"' :: r => (readString r).map fun (s, rest) => (.text (String.ofList s), rest)
    | '[' :: r =>
      match skipSpace r with
      | ']' :: rest => some (.array [], rest)
      | r => (readItems fuel r).map fun (items, rest) => (.array items, rest)
    | '{' :: r =>
      match skipSpace r with
      | '}' :: rest => some (.object [], rest)
      | r => (readFields fuel r).map fun (fields, rest) => (.object (distinctEntries fields), rest)
    | _ => (readWord cs).or (readNumber cs)

/-- Reads the items of an array up to its closing bracket. -/
def readItems : Nat → List Char → Option (List Tree × List Char)
  | 0, _ => none
  | fuel + 1, cs => do
    let (item, rest) ← readValue fuel cs
    match skipSpace rest with
    | ']' :: rest => return ([item], rest)
    | ',' :: rest =>
      let (items, rest) ← readItems fuel (skipSpace rest)
      return (item :: items, rest)
    | _ => none

/-- Reads the fields of an object up to its closing brace. -/
def readFields : Nat → List Char → Option (List (String × Tree) × List Char)
  | 0, _ => none
  | fuel + 1, cs => do
    let (key, rest) ← readKey cs
    let (value, rest) ← readValue fuel rest
    match skipSpace rest with
    | '}' :: rest => return ([(key, value)], rest)
    | ',' :: rest =>
      let (fields, rest) ← readFields fuel (skipSpace rest)
      return ((key, value) :: fields, rest)
    | _ => none

end

/-- Reads a text that holds one value and white space around it.  Every second call of the reader takes a character
away, so that the fuel is never used up. -/
def read? (cs : List Char) : Option Tree :=
  match readValue (2 * cs.length + 2) (skipSpace cs) with
  | some (value, rest) => if (skipSpace rest).isEmpty then some value else none
  | none => none

/-- Reads a string that holds one value. -/
def parse? (s : String) : Option Tree :=
  read? s.toList

end SiteReader.Json
