import SiteReader.Number.Numeral
import SiteReader.Pattern.Basic

/-!
# Reading patterns

The reader follows the usual grammar of regular expressions: alternatives, sequences, items with a quantifier, sets in
brackets, escapes, and the groups that a question mark opens.  A text outside the grammar is no pattern.
-/

namespace SiteReader.Pattern

/-- What keeps a text from being a pattern. -/
inductive Defect where
  | invalid
  /-- A number of repetitions beyond every bound. -/
  | endlessCount
  /-- Flags that exclude each other. -/
  | conflictingFlags
deriving DecidableEq, Repr

/-- The state of the reader: what is left to read, the widths of the groups so far with none for open ones, their names,
the flags of the whole pattern, the number of groups outside the innermost lookbehind, and the greatest group that a
condition asks for. -/
structure Scan where
  rest : List Char
  groups : List (Option Width)
  names : List (List Char × Nat)
  flags : Flags
  unicode : Bool
  outside? : Option Nat
  conditions : Nat

abbrev Reader (α : Type) := StateT Scan (Except Defect) α

def invalid {α : Type} : Reader α := throw .invalid

/-! ### Tokens -/

/-- A character, or a character after a backslash. -/
inductive Token where
  | plain (c : Char)
  | escape (c : Char)
deriving DecidableEq

/-- The next token, which is left in place. -/
def peek : Reader (Option Token) := do
  match (← get).rest with
  | [] => return none
  | ['\\'] => invalid
  | '\\' :: c :: _ => return some (.escape c)
  | c :: _ => return some (.plain c)

def advance (count : Nat) : Reader Unit :=
  modify fun scan => { scan with rest := scan.rest.drop count }

/-- Takes the next token. -/
def take : Reader (Option Token) := do
  match ← peek with
  | none => return none
  | some (.plain c) => do
    advance 1
    return some (.plain c)
  | some (.escape c) => do
    advance 2
    return some (.escape c)

/-- Takes a character if it comes next. -/
def accept (c : Char) : Reader Bool := do
  if (← peek) = some (.plain c) then
    advance 1
    return true
  else return false

/-- Takes a character that has to come next. -/
def expect (c : Char) : Reader Unit := do
  if !(← accept c) then invalid

/-- Takes up to `count` characters that satisfy `p`. -/
def takeUpTo (count : Nat) (p : Char → Bool) : Reader (List Char) := do
  let found := ((← get).rest.take count).takeWhile p
  advance found.length
  return found

/-- Takes the characters up to a mark, and the mark; there has to be one at least. -/
def takeUntil (mark : Char) : Reader (List Char) := do
  let rest := (← get).rest
  let found := rest.takeWhile (· != mark)
  if found.isEmpty || found.length = rest.length then invalid
  advance (found.length + 1)
  return found

/-! ### Escapes -/

/-- A test for one character. -/
def literal (flags : Flags) (c : Char) : Pattern :=
  .one ⟨false, [.char c], flags.anyCase, flags.asciiOnly⟩

/-- The item of an escaped letter that stands for a class. -/
def classItem? (c : Char) : Option CharItem :=
  match c with
  | 'd' => some (.decimal false)
  | 'D' => some (.decimal true)
  | 's' => some (.blank false)
  | 'S' => some (.blank true)
  | 'w' => some (.word false)
  | 'W' => some (.word true)
  | _ => none

/-- The character of an escaped letter that stands for a control character. -/
def controlChar? (c : Char) : Option Char :=
  match c with
  | 'a' => some '\x07'
  | 'f' => some '\x0c'
  | 'n' => some '\n'
  | 'r' => some '\r'
  | 't' => some '\t'
  | 'v' => some '\x0b'
  | '\\' => some '\\'
  | _ => none

def octalValue (cs : List Char) : Nat :=
  cs.foldl (fun n c => 8 * n + (Text.hexValue? c).getD 0) 0

def hexadecimalValue (cs : List Char) : Nat :=
  cs.foldl (fun n c => 16 * n + (Text.hexValue? c).getD 0) 0

def isOctal (c : Char) : Bool :=
  '0'.toNat ≤ c.toNat && c.toNat ≤ '7'.toNat

/-- The character of an escape of exactly `count` hexadecimal digits. -/
def hexEscape (count : Nat) : Reader Char := do
  let digits ← takeUpTo count fun c => (Text.hexValue? c).isSome
  if digits.length ≠ count then invalid
  let n := hexadecimalValue digits
  if 0x10FFFF < n then invalid
  return Char.ofNat n

/-- The character of an octal escape, at most `\377`. -/
def octalEscape (digits : List Char) : Reader Char := do
  let n := octalValue digits
  if 0o377 < n then invalid
  return Char.ofNat n

/-- The character of an escape that means the same inside and outside of sets. -/
def commonEscape (c : Char) : Reader Char :=
  match controlChar? c with
  | some control => pure control
  | none =>
    if c = 'x' then hexEscape 2
    else if c = 'u' then hexEscape 4
    else if c = 'U' then hexEscape 8
    else if Text.isAsciiLetter c || Text.isAsciiDigit c then invalid
    else pure c

/-- The item of an escape inside a set. -/
def setEscape (c : Char) : Reader CharItem := do
  match classItem? c with
  | some item => return item
  | none =>
    if c = 'b' then return .char '\x08'
    else if isOctal c then return .char (← octalEscape (c :: (← takeUpTo 2 isOctal)))
    else return .char (← commonEscape c)

/-- Checks that a group may be referred to: it exists, is closed, and is outside of the lookbehind that is being read. -/
def checkReference (index : Nat) : Reader Unit := do
  let scan ← get
  match scan.groups[index - 1]? with
  | some (some _) => match scan.outside? with
    | some outside => if outside ≤ index then invalid
    | none => pure ()
  | _ => invalid

/-- A reference back to a group by number. -/
def reference (flags : Flags) (index : Nat) : Reader Pattern := do
  if index = 0 then invalid
  checkReference index
  return .back index flags.anyCase

/-- The pattern of an escape of digits: a character of three octal digits, or a reference. -/
def digitEscape (flags : Flags) (c : Char) : Reader Pattern := do
  let second ← takeUpTo 1 Text.isAsciiDigit
  if second.isEmpty then reference flags (Numeral.value [c])
  else if isOctal c && second.all isOctal then
    let third ← takeUpTo 1 isOctal
    if third.isEmpty then reference flags (Numeral.value (c :: second))
    else return literal flags (← octalEscape (c :: second ++ third))
  else reference flags (Numeral.value (c :: second))

/-- The pattern of an escape outside of sets. -/
def escape (flags : Flags) (c : Char) : Reader Pattern := do
  match classItem? c with
  | some item => return .one ⟨false, [item], flags.anyCase, flags.asciiOnly⟩
  | none =>
    if c = 'A' then return .place .textStart
    else if c = 'Z' then return .place .textEnd
    else if c = 'b' then return .place (.wordEdge false flags.asciiOnly)
    else if c = 'B' then return .place (.wordEdge true flags.asciiOnly)
    else if c = '0' then return literal flags (← octalEscape (c :: (← takeUpTo 2 isOctal)))
    else if Text.isAsciiDigit c then digitEscape flags c
    else return literal flags (← commonEscape c)

/-! ### Sets -/

/-- The item of a token inside a set. -/
def setItem : Token → Reader CharItem
  | .plain c => pure (.char c)
  | .escape c => setEscape c

/-- The items of a set up to its closing bracket. -/
def setItems : Nat → List CharItem → Reader (List CharItem)
  | 0, _ => invalid
  | fuel + 1, items => do
    match ← take with
    | none => invalid
    | some token =>
      if token = .plain ']' && !items.isEmpty then return items
      else
        let item ← setItem token
        if !(← accept '-') then setItems fuel (items ++ [item])
        else match ← take with
          | none => invalid
          | some (.plain ']') => return items ++ [item, .char '-']
          | some last => match item, ← setItem last with
            | .char a, .char b =>
              if b.toNat < a.toNat then invalid else setItems fuel (items ++ [.range a.toNat b.toNat])
            | _, _ => invalid

/-- A set after its opening bracket. -/
def charSet (flags : Flags) : Reader Pattern := do
  let negated ← accept '^'
  let items ← setItems ((← get).rest.length + 1) []
  return .one ⟨negated, items, flags.anyCase, flags.asciiOnly⟩

/-! ### Quantifiers -/

/-- The greatest number of repetitions that may be asked for. -/
def countLimit : Nat := 4294967295

/-- The bounds between braces, after the opening one; `none` if the braces hold no bounds. -/
def braces? (cs : List Char) : Option (List Char × List Char × List Char) :=
  let low := cs.takeWhile Text.isAsciiDigit
  match cs.dropWhile Text.isAsciiDigit with
  | '}' :: rest => if low.isEmpty then none else some (low, low, rest)
  | ',' :: r =>
    let high := r.takeWhile Text.isAsciiDigit
    match r.dropWhile Text.isAsciiDigit with
    | '}' :: rest => some (low, high, rest)
    | _ => none
  | _ => none

/-- Reads a number of repetitions; without digits the default holds. -/
def count (default : Option Nat) (digits : List Char) : Reader (Option Nat) :=
  if digits.isEmpty then pure default
  else if countLimit ≤ Numeral.value digits then throw .endlessCount
  else pure (some (Numeral.value digits))

/-- Reads the bounds of a quantifier that starts with a character; `none` if a brace stands for itself. -/
def quantifier? (c : Char) : Reader (Option (Nat × Option Nat)) := do
  if c = '?' then return some (0, some 1)
  else if c = '*' then return some (0, none)
  else if c = '+' then return some (1, none)
  else match braces? (← get).rest with
    | none => return none
    | some (low, high, rest) => do
      modify fun scan => { scan with rest }
      let least := (← count (some 0) low).getD 0
      let most? ← count none high
      match most? with
      | some most => if most < least then invalid else return some (least, some most)
      | none => return some (least, none)

/-- Reads how eager a quantifier is. -/
def greed : Reader Greed := do
  if ← accept '?' then return .lazy
  else if ← accept '+' then return .possessive
  else return .greedy

/-! ### Flags -/

/-- The flags with a letter turned on or off. -/
def Flags.put (flags : Flags) (letter : Char) (value : Bool) : Flags :=
  match letter with
  | 'i' => { flags with anyCase := value }
  | 'm' => { flags with multiLine := value }
  | 's' => { flags with dotAll := value }
  | 'x' => { flags with verbose := value }
  | 'a' => { flags with asciiOnly := value }
  | 'u' => { flags with asciiOnly := !value }
  | _ => flags

def isFlag (c : Char) : Bool :=
  ['i', 'm', 's', 'x', 'a', 'u'].contains c

/-- The letters of a group of flags up to one of the given closing characters, and that character. -/
def flagLetters (closing : List Char) : Nat → List Char → Reader (List Char × Char)
  | 0, _ => invalid
  | fuel + 1, letters => do
    match ← take with
    | some (.plain c) =>
      if closing.contains c && !letters.isEmpty then return (letters, c)
      else if isFlag c then flagLetters closing fuel (letters ++ [c])
      else invalid
    | _ => invalid

/-! ### Sequences and groups -/

/-- What an item is, as far as quantifiers are concerned. -/
inductive ItemKind where
  | plain | place | repeated
deriving DecidableEq

structure Item where
  kind : ItemKind
  pattern : Pattern

/-- The item of an escape. -/
def itemOf (pattern : Pattern) : Item :=
  match pattern with
  | .place _ => ⟨.place, pattern⟩
  | _ => ⟨.plain, pattern⟩

/-- Puts a quantifier on the last item. -/
def quantify (least : Nat) (most? : Option Nat) (greed : Greed) (items : List Item) : Reader (List Item) :=
  match items.getLast? with
  | none => invalid
  | some item =>
    match item.kind with
    | .plain => pure (items.dropLast ++ [⟨.repeated, .many least most? greed item.pattern⟩])
    | _ => invalid

/-- Opens a group and gives its number. -/
def openGroup (name? : Option (List Char)) : Reader Nat := do
  let scan ← get
  let index := scan.groups.length + 1
  match name? with
  | none => set { scan with groups := scan.groups ++ [none] }
  | some name =>
    if (scan.names.lookup name).isSome then invalid
    else set { scan with groups := scan.groups ++ [none], names := scan.names ++ [(name, index)] }
  return index

/-- Closes a group around its body. -/
def closeGroup (index : Nat) (body : Pattern) : Reader Pattern := do
  modify fun scan => { scan with groups := scan.groups.set (index - 1) (some (body.width scan.groups)) }
  return .group index body

/-- Whether a text may name a group. -/
def isName (cs : List Char) : Bool :=
  match cs with
  | [] => false
  | c :: _ => cs.all Text.isWord && !Text.isDecimal c

/-- The group that a condition asks about, by name or number. -/
def conditionGroup (name : List Char) : Reader Nat := do
  let scan ← get
  if isName name then
    match scan.names.lookup name with
    | some index => return index
    | none => invalid
  else match Numeral.integer? name with
    | some (.ofNat index) => do
      if index = 0 then invalid
      set { scan with conditions := max scan.conditions index }
      return index
    | _ => invalid

/-- A lookbehind, whose body has to have a fixed width. -/
def behindOf (wanted : Bool) (body : Pattern) : Reader Pattern := do
  match body.width (← get).groups with
  | (low, some high) => if low = high then return .behind wanted low body else invalid
  | _ => invalid

/-- Skips a comment in a verbose pattern. -/
def skipLine : Reader Unit :=
  modify fun scan => { scan with rest := (scan.rest.dropWhile (· != '\n')).drop 1 }

/-- Skips a comment group. -/
def skipComment : Nat → Reader Unit
  | 0 => invalid
  | fuel + 1 => do
    match ← take with
    | none => invalid
    | some (.plain ')') => pure ()
    | _ => skipComment fuel

/-- Turns flags on and off for a group. -/
def Flags.change (flags : Flags) (on off : List Char) : Reader Flags := do
  if on.any off.contains || off.any ['a', 'u'].contains || (on.contains 'a' && on.contains 'u') then invalid
  return off.foldl (fun f c => f.put c false) (on.foldl (fun f c => f.put c true) flags)

/-- Turns flags on for the whole pattern. -/
def turnOn (letters : List Char) : Reader Flags := do
  let scan ← get
  if letters.contains 'a' && letters.contains 'u' then invalid
  let flags := letters.foldl (fun f c => if c = 'u' then f else f.put c true) scan.flags
  set { scan with flags, unicode := scan.unicode || letters.contains 'u' }
  return flags

/-- What a parenthesis opens: an item, nothing, or new flags for the rest. -/
inductive Opened where
  | item (item : Item)
  | nothing
  | flags (flags : Flags)

mutual

/-- Alternatives up to a closing parenthesis or the end.  `top` tells whether the whole pattern is being read. -/
def alternatives : Nat → Flags → Bool → Reader Pattern
  | 0, _, _ => invalid
  | fuel + 1, flags, top => do
    let first := sequence ((← items fuel flags top []).map (·.pattern))
    if ← accept '|' then
      let scan ← get
      let flags := if top then scan.flags else flags
      return .alt first (← laterAlternatives fuel flags)
    else return first

/-- The alternatives after the first one. -/
def laterAlternatives : Nat → Flags → Reader Pattern
  | 0, _ => invalid
  | fuel + 1, flags => do
    let first := sequence ((← items fuel flags false []).map (·.pattern))
    if ← accept '|' then return .alt first (← laterAlternatives fuel flags) else return first

/-- The items of a sequence.  `mayFlag` tells whether flags for the whole pattern may be set here. -/
def items : Nat → Flags → Bool → List Item → Reader (List Item)
  | 0, _, _, _ => invalid
  | fuel + 1, flags, mayFlag, done => do
    match ← peek with
    | none => return done
    | some (.escape c) => do
      advance 2
      items fuel flags mayFlag (done ++ [itemOf (← escape flags c)])
    | some (.plain c) =>
      if c = '|' || c = ')' then return done
      else do
        advance 1
        if flags.verbose && Text.isAsciiBlank c then items fuel flags mayFlag done
        else if flags.verbose && c = '#' then
          skipLine
          items fuel flags mayFlag done
        else if c = '[' then items fuel flags mayFlag (done ++ [⟨.plain, ← charSet flags⟩])
        else if c = '?' || c = '*' || c = '+' || c = '{' then
          match ← quantifier? c with
          | none => items fuel flags mayFlag (done ++ [⟨.plain, literal flags c⟩])
          | some (least, most?) => do
            if done.isEmpty || (done.getLast?.map (·.kind)) ≠ some .plain then invalid
            let greed ← greed
            items fuel flags mayFlag (← quantify least most? greed done)
        else if c = '.' then
          let test : CharTest := ⟨true, if flags.dotAll then [] else [.char '\n'], false, false⟩
          items fuel flags mayFlag (done ++ [⟨.plain, .one test⟩])
        else if c = '^' then
          let place := if flags.multiLine then Place.lineStart else Place.textStart
          items fuel flags mayFlag (done ++ [⟨.place, .place place⟩])
        else if c = '$' then
          let place := if flags.multiLine then Place.lineEnd else Place.lastEnd
          items fuel flags mayFlag (done ++ [⟨.place, .place place⟩])
        else if c = '(' then
          match ← opened fuel flags (mayFlag && done.isEmpty) with
          | .item item => items fuel flags mayFlag (done ++ [item])
          | .nothing => items fuel flags mayFlag done
          | .flags flags => items fuel flags mayFlag done
        else items fuel flags mayFlag (done ++ [⟨.plain, literal flags c⟩])

/-- What follows an opening parenthesis. -/
def opened : Nat → Flags → Bool → Reader Opened
  | 0, _, _ => invalid
  | fuel + 1, flags, mayFlag => do
    if !(← accept '?') then return .item (← captured fuel flags none)
    match ← take with
    | some (.plain 'P') => do
      match ← take with
      | some (.plain '<') => do
        let name ← takeUntil '>'
        if !isName name then invalid
        return .item (← captured fuel flags (some name))
      | some (.plain '=') => do
        let name ← takeUntil ')'
        match (← get).names.lookup name with
        | some index => do
          return .item ⟨.plain, ← reference flags index⟩
        | none => invalid
      | _ => invalid
    | some (.plain ':') => return .item ⟨.plain, ← enclosed fuel flags⟩
    | some (.plain '#') => do
      skipComment ((← get).rest.length + 1)
      return .nothing
    | some (.plain '=') => return .item ⟨.plain, .ahead true (← enclosed fuel flags)⟩
    | some (.plain '!') => return .item ⟨.plain, .ahead false (← enclosed fuel flags)⟩
    | some (.plain '<') => do
      let wanted ← match ← take with
        | some (.plain '=') => pure true
        | some (.plain '!') => pure false
        | _ => invalid
      let outside? := (← get).outside?
      modify fun scan => { scan with outside? := outside?.or (some (scan.groups.length + 1)) }
      let body ← alternatives fuel flags false
      modify fun scan => { scan with outside? }
      expect ')'
      return .item ⟨.plain, ← behindOf wanted body⟩
    | some (.plain '(') => do
      let index ← conditionGroup (← takeUntil ')')
      if (← get).outside?.isSome then checkReference index
      let yes ← items fuel flags false []
      let no ← if ← accept '|' then items fuel flags false [] else pure []
      expect ')'
      return .item ⟨.plain, .given index (sequence (yes.map (·.pattern))) (sequence (no.map (·.pattern)))⟩
    | some (.plain '>') => return .item ⟨.plain, .atomic (← enclosed fuel flags)⟩
    | some (.plain c) =>
      if c = '-' then
        let (off, _) ← flagLetters [':'] fuel []
        return .item ⟨.plain, ← enclosed fuel (← flags.change [] off)⟩
      else if isFlag c then
        let (on, closing) ← flagLetters [')', '-', ':'] fuel [c]
        if closing = ')' then
          if mayFlag then return .flags (← turnOn on) else invalid
        else if closing = '-' then
          let (off, _) ← flagLetters [':'] fuel []
          return .item ⟨.plain, ← enclosed fuel (← flags.change on off)⟩
        else return .item ⟨.plain, ← enclosed fuel (← flags.change on [])⟩
      else invalid
    | _ => invalid

/-- The alternatives of a group that captures nothing, with its closing parenthesis. -/
def enclosed : Nat → Flags → Reader Pattern
  | 0, _ => invalid
  | fuel + 1, flags => do
    let body ← alternatives fuel flags false
    expect ')'
    return body

/-- A group that captures, with its closing parenthesis. -/
def captured : Nat → Flags → Option (List Char) → Reader Item
  | 0, _, _ => invalid
  | fuel + 1, flags, name? => do
    let index ← openGroup name?
    let body ← alternatives fuel flags false
    expect ')'
    return ⟨.plain, ← closeGroup index body⟩

end

/-- Reads the whole pattern. -/
def whole (size : Nat) : Reader Pattern := do
  let pattern ← alternatives (4 * size + 4) .none true
  let scan ← get
  if !scan.rest.isEmpty then invalid
  if scan.groups.length < scan.conditions then invalid
  if scan.flags.asciiOnly && scan.unicode then throw .conflictingFlags
  return pattern

/-- Reads a pattern; also tells how many groups it has. -/
def parse (text : String) : Except Defect (Pattern × Nat) :=
  let cs := text.toList
  match (whole cs.length).run ⟨cs, [], [], .none, false, none, 0⟩ with
  | .ok (pattern, scan) => .ok (pattern, scan.groups.length)
  | .error defect => .error defect

end SiteReader.Pattern
