import SiteReader.Text.Case

/-!
# Patterns

A pattern is a regular expression with groups, back references, lookaround and three kinds of repetition.  What a
pattern says about single characters and about places in a text is defined here; what it matches as a whole is defined
in the matcher.
-/

namespace SiteReader

namespace Pattern

/-! ### Single characters -/

/-- What a character is tested for. -/
inductive CharItem where
  | char (c : Char)
  | range (first last : Nat)
  | decimal (negated : Bool)
  | blank (negated : Bool)
  | word (negated : Bool)
deriving DecidableEq, Repr

/-- How letters are compared. -/
structure Flags where
  anyCase : Bool
  multiLine : Bool
  dotAll : Bool
  verbose : Bool
  asciiOnly : Bool
deriving DecidableEq, Repr

def Flags.none : Flags := ⟨false, false, false, false, false⟩

/-- A test of a single character: whether it fits one of the items, or none of them. -/
structure CharTest where
  negated : Bool
  items : List CharItem
  anyCase : Bool
  asciiOnly : Bool
deriving DecidableEq, Repr

def isDecimalIn (asciiOnly : Bool) (c : Char) : Bool :=
  if asciiOnly then Text.isAsciiDigit c else Text.isDecimal c

def isBlankIn (asciiOnly : Bool) (c : Char) : Bool :=
  if asciiOnly then Text.isAsciiBlank c else Text.isBlank c

def isWordIn (asciiOnly : Bool) (c : Char) : Bool :=
  if asciiOnly then c = '_' || Text.isAsciiAlphanumeric c else Text.isWord c

/-- The characters that count as the same when letter case is disregarded. -/
def variants (asciiOnly : Bool) (c : Char) : List Char :=
  if asciiOnly then [c.toLower, c.toUpper] else c :: Text.caseVariants c

/-- Whether a character fits an item. -/
def CharItem.fits (anyCase asciiOnly : Bool) (c : Char) : CharItem → Bool
  | char d => c = d || (anyCase && (variants asciiOnly c).contains d)
  | range first last =>
    (first ≤ c.toNat && c.toNat ≤ last) ||
      (anyCase && (variants asciiOnly c).any fun d => first ≤ d.toNat && d.toNat ≤ last)
  | decimal negated => isDecimalIn asciiOnly c != negated
  | blank negated => isBlankIn asciiOnly c != negated
  | word negated => isWordIn asciiOnly c != negated

/-- Whether a character passes a test. -/
def CharTest.passes (test : CharTest) (c : Char) : Bool :=
  (test.items.any (CharItem.fits test.anyCase test.asciiOnly c)) != test.negated

/-! ### Places -/

/-- A place between two characters. -/
inductive Place where
  | textStart
  | lineStart
  | textEnd
  /-- The end of the text, or of its last line when a line end closes it. -/
  | lastEnd
  | lineEnd
  | wordEdge (negated asciiOnly : Bool)
deriving DecidableEq, Repr

/-- Whether a place is between the characters before it, the nearest first, and the characters after it. -/
def Place.holds (place : Place) (before after : List Char) : Bool :=
  match place with
  | textStart => before.isEmpty
  | lineStart => before.isEmpty || before.head? = some '\n'
  | textEnd => after.isEmpty
  | lastEnd => after.isEmpty || after = ['\n']
  | lineEnd => after.isEmpty || after.head? = some '\n'
  | wordEdge negated asciiOnly =>
    let isInside (cs : List Char) : Bool := match cs with
      | c :: _ => isWordIn asciiOnly c
      | [] => false
    if before.isEmpty && after.isEmpty then false else (isInside before != isInside after) != negated

/-- How eager a repetition is: as long as possible, as short as possible, or as long as possible without giving back. -/
inductive Greed where
  | greedy | lazy | possessive
deriving DecidableEq, Repr

end Pattern

/-- A regular expression. -/
inductive Pattern where
  | empty
  | one (test : Pattern.CharTest)
  | place (place : Pattern.Place)
  | seq (first second : Pattern)
  | alt (first second : Pattern)
  | group (index : Nat) (body : Pattern)
  /-- The text that a group has matched. -/
  | back (index : Nat) (anyCase : Bool)
  | many (least : Nat) (most? : Option Nat) (greed : Pattern.Greed) (body : Pattern)
  | ahead (wanted : Bool) (body : Pattern)
  | behind (wanted : Bool) (width : Nat) (body : Pattern)
  | atomic (body : Pattern)
  /-- One pattern if a group has matched, else another. -/
  | given (index : Nat) (yes no : Pattern)
deriving Repr

namespace Pattern

/-- All of some patterns, one after the other. -/
def sequence : List Pattern → Pattern
  | [] => empty
  | [p] => p
  | p :: rest => seq p (sequence rest)

/-! ### Widths -/

/-- The least and the greatest number of characters that a pattern matches, without a greatest if there is none. -/
abbrev Width := Nat × Option Nat

def addBound : Option Nat → Option Nat → Option Nat
  | some a, some b => some (a + b)
  | _, _ => none

def maxBound : Option Nat → Option Nat → Option Nat
  | some a, some b => some (max a b)
  | _, _ => none

/-- The bound of a repetition, which is none if something is repeated without end. -/
def timesBound : Option Nat → Option Nat → Option Nat
  | some 0, _ => some 0
  | some a, some b => some (a * b)
  | _, some 0 => some 0
  | _, _ => none

/-- The width of a pattern; `groups` holds the widths of the groups it refers back to. -/
def width (groups : List (Option Width)) : Pattern → Width
  | empty => (0, some 0)
  | one _ => (1, some 1)
  | place _ => (0, some 0)
  | seq p q =>
    let (a, b) := width groups p
    let (c, d) := width groups q
    (a + c, addBound b d)
  | alt p q =>
    let (a, b) := width groups p
    let (c, d) := width groups q
    (min a c, maxBound b d)
  | group _ p => width groups p
  | back index _ => ((groups[index - 1]?).getD none).getD (0, some 0)
  | many least most? _ p =>
    let (a, b) := width groups p
    (a * least, timesBound b most?)
  | ahead _ _ => (0, some 0)
  | behind _ _ _ => (0, some 0)
  | atomic p => width groups p
  | given _ p q =>
    let (a, b) := width groups p
    let (c, d) := width groups q
    (min a c, maxBound b d)

end Pattern

end SiteReader
