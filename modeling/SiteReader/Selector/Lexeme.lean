import SiteReader.Number.Numeral
import SiteReader.Selector.Basic

/-!
# The words of selectors

Blanks and comments, identifiers with escapes, quoted texts, and the cycles of numbers that positions are given by.
Each reader gives what it has read and the text after it.
-/

namespace SiteReader.Selector.Lexeme

/-! ### Blanks -/

/-- White space in a selector. -/
def isSpace (c : Char) : Bool :=
  [' ', '\t', '\n', '\r', '\x0c'].contains c

/-- The end of a line in a selector. -/
def isLineEnd (c : Char) : Bool :=
  ['\n', '\r', '\x0c'].contains c

/-- The text after the end of a comment that is open. -/
def afterComment? : List Char → Option (List Char)
  | '*' :: '/' :: r => some r
  | _ :: r => afterComment? r
  | [] => none

/-- Skips white space and comments; the fuel bounds their number. -/
def skipBlanksFrom : Nat → List Char → List Char
  | 0, cs => cs
  | fuel + 1, cs =>
    match cs with
    | '/' :: '*' :: r => match afterComment? r with
      | some rest => skipBlanksFrom fuel rest
      | none => cs
    | c :: r => if isSpace c then skipBlanksFrom fuel r else cs
    | [] => []

/-- Skips white space and comments. -/
def skipBlanks (cs : List Char) : List Char :=
  skipBlanksFrom cs.length cs

/-- Skips comments only; the fuel bounds their number. -/
def skipComments : Nat → List Char → List Char
  | fuel + 1, '/' :: '*' :: r => match afterComment? r with
    | some rest => skipComments fuel rest
    | none => '/' :: '*' :: r
  | _, cs => cs

/-- Skips one white space, which a line end of two characters is as well. -/
def skipSpace : List Char → List Char
  | '\r' :: '\n' :: r => r
  | c :: r => if isSpace c then r else c :: r
  | [] => []

/-! ### Escapes -/

/-- The character of a number; zero and numbers of no character become replacement characters. -/
def charOfNumber (n : Nat) : Char :=
  if n = 0 || !n.isValidChar then '\uFFFD' else Char.ofNat n

/-- The character that an escape stands for, after its backslash. -/
def escape? (cs : List Char) : Option (Char × List Char) :=
  let digits := (cs.take 6).takeWhile fun c => (Text.hexValue? c).isSome
  if !digits.isEmpty then
    some (charOfNumber (digits.foldl (fun n c => 16 * n + (Text.hexValue? c).getD 0) 0),
      skipSpace (cs.drop digits.length))
  else match cs with
    | [] => some ('\uFFFD', [])
    | c :: r => if isLineEnd c then none else some (c, r)

/-! ### Identifiers -/

/-- A character that an identifier may start with. -/
def isStart (c : Char) : Bool :=
  Text.isAsciiLetter c || c = '_' || 0xA0 ≤ c.toNat

/-- A character that may be part of an identifier. -/
def isPart (c : Char) : Bool :=
  isStart c || Text.isAsciiDigit c || c = '-'

/-- The characters of an identifier up to its end; the fuel bounds their number. -/
def parts : Nat → List Char → List Char × List Char
  | 0, cs => ([], cs)
  | fuel + 1, cs =>
    match cs with
    | [] => ([], [])
    | '\\' :: r => match escape? r with
      | some (c, rest) =>
        let (found, rest) := parts fuel rest
        (c :: found, rest)
      | none => ([], cs)
    | c :: r =>
      if isPart c then
        let (found, rest) := parts fuel r
        (c :: found, rest)
      else ([], cs)

/-- Whether an identifier starts here. -/
def startsIdentifier : List Char → Bool
  | '-' :: '-' :: _ => true
  | '-' :: '\\' :: r => (escape? r).isSome
  | '-' :: c :: _ => isStart c
  | '\\' :: r => (escape? r).isSome
  | c :: _ => isStart c
  | [] => false

/-- Reads an identifier. -/
def identifier? (cs : List Char) : Option (String × List Char) :=
  if startsIdentifier cs then
    let (found, rest) := parts cs.length cs
    some (String.ofList found, rest)
  else none

/-! ### Values -/

/-- A quoted text up to its closing quote; the fuel bounds the number of its characters. -/
def quoted? (quote : Char) : Nat → List Char → Option (List Char × List Char)
  | 0, _ => none
  | fuel + 1, cs =>
    match cs with
    | [] => none
    | '\\' :: '\r' :: '\n' :: r => quoted? quote fuel r
    | '\\' :: c :: r =>
      if isLineEnd c then quoted? quote fuel r
      else match escape? (c :: r) with
        | some (d, rest) => (quoted? quote fuel rest).map fun (found, rest) => (d :: found, rest)
        | none => none
    | c :: r =>
      if c = quote then some ([], r)
      else if isLineEnd c || c = '\\' then none
      else (quoted? quote fuel r).map fun (found, rest) => (c :: found, rest)

/-- Reads a quoted text or an identifier. -/
def value? : List Char → Option (String × List Char)
  | '"' :: r => (quoted? '"' (r.length + 1) r).map fun (found, rest) => (String.ofList found, rest)
  | '\'' :: r => (quoted? '\'' (r.length + 1) r).map fun (found, rest) => (String.ofList found, rest)
  | cs => identifier? cs

/-- Reads values with commas between them; the fuel bounds their number. -/
def values? : Nat → List Char → Option (List String × List Char)
  | 0, _ => none
  | fuel + 1, cs => do
    let (first, rest) ← value? cs
    match skipBlanks rest with
    | ',' :: r => do
      let (others, rest) ← values? fuel (skipBlanks r)
      return (first :: others, rest)
    | _ => return ([first], rest)

/-- Skips a closing parenthesis with blanks before it. -/
def close? (cs : List Char) : Option (List Char) :=
  match skipBlanks cs with
  | ')' :: r => some r
  | _ => none

/-! ### Cycles -/

/-- Reads a sign and digits, with blanks before and after the sign. -/
def offset? (cs : List Char) : Option (Int × List Char) :=
  match skipBlanks cs with
  | sign :: r =>
    let body := skipBlanks r
    let digits := body.takeWhile Text.isAsciiDigit
    let n := Int.ofNat (Numeral.value digits)
    if digits.isEmpty then none
    else if sign = '+' then some (n, body.drop digits.length)
    else if sign = '-' then some (-n, body.drop digits.length)
    else none
  | [] => none

/-- The text after a word, letter case aside. -/
def afterWord? (word : String) (cs : List Char) : Option (List Char) :=
  if (cs.take word.length).map Char.toLower = word.toList then some (cs.drop word.length) else none

/-- Reads a cycle given by a step and an offset, or a single number. -/
def steps? (cs : List Char) : Option (Cycle × List Char) :=
  let (negative, unsigned) := Numeral.sign cs
  let signed (n : Int) : Int := if negative then -n else n
  let digits := unsigned.takeWhile Text.isAsciiDigit
  let rest := unsigned.drop digits.length
  let withOffset (step : Int) (rest : List Char) : Cycle × List Char :=
    match offset? rest with
    | some (offset, rest) => (⟨step, offset⟩, rest)
    | none => (⟨step, 0⟩, rest)
  let n := if digits.isEmpty then 1 else Int.ofNat (Numeral.value digits)
  match rest with
  | c :: r =>
    if c = 'n' || c = 'N' then some (withOffset (signed n) r)
    else if digits.isEmpty then none
    else some (⟨0, signed n⟩, rest)
  | [] => if digits.isEmpty then none else some (⟨0, signed n⟩, [])

/-- Reads a cycle. -/
def cycle? (cs : List Char) : Option (Cycle × List Char) :=
  match steps? cs with
  | some found => some found
  | none => match afterWord? "even" cs with
    | some rest => some (⟨2, 0⟩, rest)
    | none => (afterWord? "odd" cs).map fun rest => (⟨2, 1⟩, rest)

/-- Skips the word `of` between blanks, the first and the last of which are no comments. -/
def afterOf? (cs : List Char) : Option (List Char) := do
  let spaced? (cs : List Char) : Option (List Char) :=
    let rest := skipComments cs.length cs
    match rest with
    | c :: _ => if isSpace c then some (skipBlanks rest) else none
    | [] => none
  spaced? (← afterWord? "of" (← spaced? cs))

end SiteReader.Selector.Lexeme
