import SiteReader.Selector.Lexeme
import SiteReader.Selector.Standard

/-!
# Reading selectors

Alternatives are separated by commas.  Each one is a chain of compounds with combinators between them; a compound is a
name, then identifiers, classes, attributes and names after a colon in any order.
-/

namespace SiteReader.Selector

open Lexeme

/-- What keeps a text from being a selector: its form, or that it selects what is no element. -/
inductive Defect where
  | malformed | unsupported
deriving DecidableEq, Repr

/-- The kind of a list of alternatives. -/
structure ListKind where
  /-- The list is closed by a parenthesis. -/
  nested : Bool
  /-- Each alternative starts from the element that is tested. -/
  relative : Bool
  /-- Alternatives may be missing. -/
  lenient : Bool

/-- A compound that is being read. -/
structure Draft where
  tests : List Test
  never : Bool
  given : Bool

def Draft.empty : Draft := ⟨[], false, false⟩

/-- Adds tests to a compound. -/
def Draft.add (draft : Draft) (more : List Test) : Draft :=
  { draft with tests := draft.tests ++ more, given := true }

/-- A compound that selects nothing. -/
def Draft.neverOf (draft : Draft) : Draft :=
  { draft with never := true, given := true }

/-- The compound with what another element has to be. -/
def Draft.finish (draft : Draft) (tie : Tie) : Selector :=
  if draft.never then .never else .all draft.tests tie

/-- A list of alternatives that is being read: the alternatives so far; the compound that is being read, and what it is
tied to; for a relative alternative its compounds so far, and the combinator before the next one. -/
structure Reading where
  done : List Selector
  draft : Draft
  tie : Tie
  chain : List (Combinator × Draft)
  lead : Combinator

def Reading.empty : Reading := ⟨[], .empty, .free, [], .below⟩

/-! ### Single tests -/

/-- Text in lower case as far as it is ASCII. -/
def asciiLower (s : String) : String :=
  s.map Char.toLower

/-- Reads the name of an element, with an origin before a bar. -/
def elementName? (cs : List Char) : Option (Test × List Char) :=
  let plain? (cs : List Char) : Option (String × List Char) := match cs with
    | '*' :: r => some ("*", r)
    | _ => identifier? cs
  let qualified? : Option (Test × List Char) := do
    let (origin, rest) := match cs with
      | '|' :: _ => ("", cs)
      | _ => (plain? cs).getD ("", cs)
    match rest with
    | '|' :: r => do
      let (name, rest) ← plain? r
      return (.name (some origin) name, rest)
    | _ => none
  qualified?.or ((plain? cs).map fun (name, rest) => (.name none name, rest))

/-- Reads the name of an attribute; an origin before a bar has no effect. -/
def attributeName? (cs : List Char) : Option (String × List Char) :=
  let origin? : Option (List Char) := match cs with
    | '*' :: '|' :: r => some r
    | '|' :: r => some r
    | _ => match identifier? cs with
      | some (_, '|' :: r) => some r
      | _ => none
  (origin?.bind identifier?).or (identifier? cs)

/-- Reads a comparison; the second part tells whether it has to fail. -/
def comparison? : List Char → Option (Comparison × Bool × List Char)
  | '=' :: r => some (.equals, false, r)
  | '!' :: '=' :: r => some (.equals, true, r)
  | '^' :: '=' :: r => some (.startsWith, false, r)
  | '$' :: '=' :: r => some (.endsWith, false, r)
  | '*' :: '=' :: r => some (.contains, false, r)
  | '~' :: '=' :: r => some (.word, false, r)
  | '|' :: '=' :: r => some (.dashed, false, r)
  | _ => none

/-- The end of a test of an attribute: whether letter case is disregarded, if that is said. -/
def attributeEnd? (cs : List Char) : Option (Option Bool × List Char) :=
  match skipBlanks cs with
  | ']' :: r => some (none, r)
  | c :: r => match skipBlanks r with
    | ']' :: rest =>
      if c.toLower = 'i' then some (some true, rest)
      else if c.toLower = 's' then some (some false, rest)
      else none
    | _ => none
  | [] => none

/-- Reads a test of an attribute after its opening bracket. -/
def attribute? (cs : List Char) : Option (Test × List Char) := do
  let (name, rest) ← attributeName? (skipBlanks cs)
  match comparison? (skipBlanks rest) with
  | none => match skipBlanks rest with
    | ']' :: r => some (.valued ⟨name, .present, "", false⟩, r)
    | _ => none
  | some (comparison, negated, rest) => do
    let (value, rest) ← value? (skipBlanks rest)
    let (anyCase?, rest) ← attributeEnd? rest
    let test : Test := .valued ⟨name, comparison, value, anyCase?.getD (asciiLower name = "type")⟩
    return (if negated then .anyOf true [.all [test] .free] else test, rest)

/-! ### Names after a colon -/

/-- What a name after a colon, with its opening parenthesis, begins: complete tests, or tests of a position that are to
be followed by selectors. -/
inductive Special where
  | tests (tests : List Test)
  | among (cycle : Cycle) (fromEnd : Bool)

/-- Reads the arguments of the names that take others than selectors. -/
def special? (name : String) (cs : List Char) : Option (Special × List Char) := do
  if ["contains", "-soup-contains", "-soup-contains-own"].contains name then
    let (texts, rest) ← values? (cs.length + 1) cs
    return (.tests [.mentions (name = "-soup-contains-own") texts], ← close? rest)
  else if name = "nth-child" || name = "nth-last-child" then
    let (cycle, rest) ← cycle? cs
    let fromEnd : Bool := name = "nth-last-child"
    match close? rest with
    | some rest => return (.tests [.position cycle fromEnd false []], rest)
    | none => return (.among cycle fromEnd, ← afterOf? rest)
  else if name = "nth-of-type" || name = "nth-last-of-type" then
    let (cycle, rest) ← cycle? cs
    return (.tests [.position cycle (name = "nth-last-of-type") true []], ← close? rest)
  else if name = "lang" then
    let (ranges, rest) ← values? (cs.length + 1) cs
    return (.tests [.language ranges], ← close? rest)
  else none

/-- The kind of the selectors that a name takes as arguments. -/
def argumentsOf? (name : String) : Option ListKind :=
  if name = "has" then some ⟨true, true, false⟩
  else if name = "is" || name = "where" then some ⟨true, false, true⟩
  else if ["not", "matches", "contains", "-soup-contains", "-soup-contains-own"].contains name then
    some ⟨true, false, false⟩
  else none

/-! ### Combinators and alternatives -/

/-- What separates compounds: a combinator, or a comma. -/
inductive Separator where
  | combinator (combinator : Combinator)
  | comma

/-- Reads a separator with the blanks around it. -/
def separator? (cs : List Char) : Option (Separator × List Char) :=
  let rest := skipBlanks cs
  match rest with
  | ',' :: r => some (.comma, skipBlanks r)
  | '>' :: r => some (.combinator .directlyBelow, skipBlanks r)
  | '~' :: r => some (.combinator .later, skipBlanks r)
  | '+' :: r => some (.combinator .next, skipBlanks r)
  | _ => if (skipComments cs.length cs).head?.any isSpace then some (.combinator .below, rest) else none

/-- A relative alternative of compounds, each with the combinator before it. -/
def chained : List (Combinator × Draft) → Tie
  | [] => .free
  | (combinator, draft) :: rest => .ahead combinator (draft.finish (chained rest))

/-- Goes on after a separator. -/
def Reading.separate (kind : ListKind) (reading : Reading) : Separator → Except Defect Reading
  | .comma =>
    if kind.relative then
      if reading.draft.given then
        .ok { Reading.empty with
          done := reading.done ++ [.all [] (chained (reading.chain ++ [(reading.lead, reading.draft)]))] }
      else .error .malformed
    else if reading.draft.given then
      .ok { Reading.empty with done := reading.done ++ [reading.draft.finish reading.tie] }
    else if kind.lenient then .ok { Reading.empty with done := reading.done ++ [.never] }
    else .error .malformed
  | .combinator combinator =>
    if kind.relative then
      if reading.draft.given then
        .ok { reading with
          draft := .empty, chain := reading.chain ++ [(reading.lead, reading.draft)], lead := combinator }
      else if reading.lead = .below then .ok { reading with lead := combinator }
      else .error .malformed
    else if reading.draft.given then
      .ok { reading with draft := .empty, tie := .back combinator (reading.draft.finish reading.tie) }
    else .error .malformed

/-- The alternatives of a list that has been read to its end. -/
def Reading.finish (kind : ListKind) (reading : Reading) : Except Defect (List Selector) :=
  if reading.draft.given then
    if kind.relative then
      .ok (reading.done ++ [.all [] (chained (reading.chain ++ [(reading.lead, reading.draft)]))])
    else .ok (reading.done ++ [reading.draft.finish reading.tie])
  else match reading.tie with
    | .free => if kind.lenient then .ok (reading.done ++ [.never]) else .error .malformed
    | _ => if kind.lenient && reading.done.isEmpty then .ok [.never] else .error .malformed

/-- Reads alternatives to the end of the list.  The fuel bounds the number of words. -/
def readList : Nat → ListKind → Reading → List Char → Except Defect (List Selector × List Char)
  | 0, _, _, _ => .error .malformed
  | fuel + 1, kind, reading, cs =>
    let add (tests : List Test) (rest : List Char) : Except Defect (List Selector × List Char) :=
      readList fuel kind { reading with draft := reading.draft.add tests } rest
    if (skipBlanks cs).isEmpty then
      if kind.nested then .error .malformed else do return (← reading.finish kind, [])
    else match close? cs with
    | some rest => if kind.nested then do return (← reading.finish kind, rest) else .error .malformed
    | none => match cs with
    | ':' :: r => match identifier? r with
      | none => match r with
        | ':' :: s => .error (if (identifier? s).isSome then .unsupported else .malformed)
        | _ => .error .malformed
      | some (name, rest) =>
        let name := asciiLower name
        match rest with
        | '(' :: arguments => do
          let arguments := skipBlanks arguments
          match special? name arguments with
          | some (.tests tests, rest) => add tests rest
          | some (.among cycle fromEnd, rest) => do
            let (among, rest) ← readList fuel ⟨true, false, false⟩ .empty rest
            add [.position cycle fromEnd false among] rest
          | none => match argumentsOf? name with
            | some nestedKind => do
              let (selectors, rest) ← readList fuel nestedKind .empty arguments
              add [.anyOf (name = "not") selectors] rest
            | none =>
              if neverShownOf.contains name then do
                let (_, rest) ← readList fuel ⟨true, false, false⟩ .empty arguments
                readList fuel kind { reading with draft := reading.draft.neverOf } rest
              else .error .malformed
        | _ => match standard? name with
          | some tests => add tests rest
          | none =>
            if neverShown.contains name then
              readList fuel kind { reading with draft := reading.draft.neverOf } rest
            else .error .malformed
    | '&' :: r => add [.scope] r
    | '#' :: r => match identifier? r with
      | some (id, rest) => add [.identifier id] rest
      | none => .error .malformed
    | '.' :: r => match identifier? r with
      | some (name, rest) => add [.inClass name] rest
      | none => .error .malformed
    | '[' :: r => match attribute? r with
      | some (test, rest) => add [test] rest
      | none => .error .malformed
    | _ => match elementName? cs with
      | some (test, rest) => if reading.draft.given then .error .malformed else add [test] rest
      | none => match separator? cs with
        | some (separator, rest) => do readList fuel kind (← reading.separate kind separator) rest
        | none => .error .malformed

/-- Reads the alternatives of a selector. -/
def parse (text : String) : Except Defect (List Selector) := do
  let cs := skipBlanks (text.toList.map fun c => if c = '\x00' then '\uFFFD' else c)
  return (← readList (cs.length + 1) ⟨false, false, false⟩ .empty cs).1

end SiteReader.Selector
