import SiteReader.Fault
import SiteReader.Number.Numeral

/-!
# Rules for pages

A rule for pages has alternatives, and perhaps a regular expression.  An alternative is a chain of steps from element to
element, and the attribute of the last element that is asked for.  A step is a selector, in full or by one of the short
forms for classes, identifiers and names, with the place of the one match to take or to leave out.
-/

namespace SiteReader.Excerpt

/-! ### Steps -/

/-- A step of a chain.  Places count from zero, negative ones from the end. -/
structure Step where
  selector : String
  pick? : Option Int
  drop? : Option Int
deriving DecidableEq, Repr

/-- The digits after a mark, with a minus sign before them if there is one, and the text after them. -/
def place? (mark : Char) (cs : List Char) : Option (List Char) × List Char :=
  match cs with
  | c :: r =>
    let sign := match r with
      | '-' :: _ => ['-']
      | _ => []
    let digits := (r.drop sign.length).takeWhile Text.isDecimal
    if c = mark && !digits.isEmpty then (some (sign ++ digits), r.drop (sign.length + digits.length)) else (none, cs)
  | [] => (none, [])

/-- The places at the end of a step: the one to take, then the one to leave out, and nothing else. -/
def places? (cs : List Char) : Option (Option (List Char) × Option (List Char)) :=
  let (pick, rest) := place? '.' cs
  let (drop, rest) := place? '!' rest
  if rest.isEmpty then some (pick, drop) else none

/-- The shortest text of at least `least` characters, none of them a line end, that only places follow. -/
def shortest? : Nat → List Char → Option (List Char × Option (List Char) × Option (List Char))
  | 0, cs =>
    match places? cs with
    | some (pick, drop) => some ([], pick, drop)
    | none => match cs with
      | [] => none
      | c :: r => if c = '\n' then none else (shortest? 0 r).map fun (text, places) => (c :: text, places)
  | _ + 1, [] => none
  | least + 1, c :: r =>
    if c = '\n' then none else (shortest? least r).map fun (text, places) => (c :: text, places)

/-- Reads a place. -/
def readPlace : Option (List Char) → Except Fault (Option Int)
  | none => .ok none
  | some cs => match Numeral.integer? cs with
    | some n => .ok (some n)
    | none => .error .endlessNumeral

/-- The selector of a text and its places. -/
def step (selector : List Char) (pick drop : Option (List Char)) : Except Fault Step := do
  return ⟨String.ofList (Text.trim selector), ← readPlace pick, ← readPlace drop⟩

/-- The selector that a short form stands for. -/
def shortForm? (cs : List Char) : Option (List Char × Option (List Char) × Option (List Char)) :=
  let named (mark : String) (f : List Char → List Char) :
      Option (List Char × Option (List Char) × Option (List Char)) := do
    let (name, places) ← shortest? 1 (← Text.dropHead? mark.toList cs)
    return (f name, places)
  let ofClasses (name : List Char) : List Char := (Text.fields Text.isBlank name).flatMap fun word => '.' :: word
  ((named "class." ofClasses).or (named "id." fun name => '#' :: Text.trim name)).or (named "tag." Text.trim)

/-- Reads a step. -/
def Step.parse (text : String) : Except Fault Step :=
  let cs := Text.trim text.toList
  match (shortForm? cs).or (shortest? 0 cs) with
  | some (selector, pick, drop) => step selector pick drop
  | none => step cs none none

/-! ### Chains -/

/-- An alternative: its steps, and the attribute of the last element. -/
structure Chain where
  steps : List String
  attribute? : Option String
deriving DecidableEq, Repr

/-- Whether a text looks like the name of an attribute. -/
def isAttributeName (cs : List Char) : Bool :=
  match cs with
  | c :: r => Text.isAsciiLetter c && r.all fun d => Text.isWord d || d = '-'
  | [] => false

/-- Reads an alternative. -/
def Chain.parse (option : String) : Chain :=
  let parts := (Text.splitOn ['@'] option.toList).filter fun part => !(Text.trim part).isEmpty
  match parts.getLast? with
  | some last =>
    let name := Text.trim last
    if 1 < parts.length && isAttributeName name then
      ⟨parts.dropLast.map String.ofList, some (String.ofList name)⟩
    else ⟨parts.map String.ofList, none⟩
  | none => ⟨[], none⟩

/-- The alternatives of a rule. -/
def alternatives (rule : List Char) : List String :=
  (Text.splitOn ['|', '|'] rule).map String.ofList

/-! ### Literals -/

/-- Whether a character marks a selector. -/
def isSelectorMark (c : Char) : Bool :=
  ['#', '.', '[', '@', ':', '>'].contains c

/-- Whether a character is one of the unified ideographs from U+4E00 to U+9FA5. -/
def isIdeograph (c : Char) : Bool :=
  0x4E00 ≤ c.toNat && c.toNat ≤ 0x9FA5

/-- Whether a rule is a text to be taken as it is. -/
def isLiteral (rule : List Char) : Bool :=
  !rule.any isSelectorMark && rule.any isIdeograph

end SiteReader.Excerpt
