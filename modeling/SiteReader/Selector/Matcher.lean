import SiteReader.Markup.Spot
import SiteReader.Selector.Basic
import SiteReader.Selector.Language

/-!
# What selectors select

A selector fits an element in its page: ancestors of the element count even above the place where the search starts.
The page itself counts as the topmost ancestor.
-/

namespace SiteReader.Selector

open Markup (Spot TextKind)

/-! ### Attributes -/

/-- The text to compare, in one letter case if that is to be disregarded. -/
def comparable (anyCase : Bool) (s : String) : List Char :=
  if anyCase then s.toList.map Text.foldChar else s.toList

/-- A text without the line end that closes it. -/
def withoutLastLineEnd (cs : List Char) : List Char :=
  (Text.dropTail? ['\n'] cs).getD cs

/-- White space between the words of a value. -/
def isWordSpace (c : Char) : Bool :=
  [' ', '\t', '\n', '\r', '\x0c'].contains c

/-- Compares a value with a text.  A line end that closes the value is disregarded at its end. -/
def Comparison.holds (comparison : Comparison) (wanted value : List Char) : Bool :=
  match comparison with
  | .present => true
  | .equals => value = wanted || value = wanted ++ ['\n']
  | .startsWith => wanted.isPrefixOf value
  | .endsWith => wanted.isSuffixOf value || wanted.isSuffixOf (withoutLastLineEnd value)
  | .contains => Text.hasMark wanted value
  | .word =>
    !wanted.isEmpty && !wanted.any isWordSpace && (Text.fields isWordSpace value).contains wanted
  | .dashed => value = wanted || value = wanted ++ ['\n'] || (wanted ++ ['-']).isPrefixOf value

/-- The value of an attribute; letters of ASCII are the same in either case. -/
def value? (spot : Spot) (name : String) : Option String :=
  spot.attribute? (name.map Char.toLower)

def AttributeTest.fits (test : AttributeTest) (spot : Spot) : Bool :=
  match value? spot test.name with
  | none => false
  | some value => test.comparison.holds (comparable test.anyCase test.value) (comparable test.anyCase value)

/-! ### Places and texts -/

/-- Where a search takes place: the addresses of the element around the page and of the element it starts from. -/
structure Range where
  root? : Option (List Nat)
  scope? : Option (List Nat)

def isFrame (spot : Spot) : Bool :=
  spot.name = "iframe"

/-- The kinds of text that are content. -/
def isContent (kind : TextKind) : Bool :=
  match kind with
  | .plain => true
  | .inside _ => true
  | _ => false

/-- Whether a node leaves no room for a root beside it. -/
def isBesideRoot (node : Markup) : Bool :=
  match node with
  | .element _ _ _ => false
  | .text kind content =>
    !(kind = .cdata || (isContent kind && !(Text.trim content.toList).isEmpty))

/-- Whether an element is around the page or around a frame. -/
def isRoot (range : Range) (spot : Spot) : Bool :=
  (range.root? = some spot.address || spot.parent?.any isFrame) && spot.besides.all isBesideRoot

def isEmpty (spot : Spot) : Bool :=
  isFrame spot || spot.nodes.all fun node => match node with
    | .element _ _ _ => false
    | .text kind content => !isContent kind || content.toList.all isWordSpace

mutual

/-- The texts that are content of a node, frames left out. -/
def contentTexts : Markup → List String
  | .text kind content => if isContent kind then [content] else []
  | .element name _ children => if name = "iframe" then [] else contentTextsOf children

def contentTextsOf : List Markup → List String
  | [] => []
  | node :: rest => contentTexts node ++ contentTextsOf rest

end

/-- The texts that are content directly of a spot. -/
def ownContentTexts (spot : Spot) : List String :=
  spot.nodes.filterMap fun node => match node with
    | .text kind content => if isContent kind then some content else none
    | .element _ _ _ => none

/-- Whether one of some texts occurs in an element, or in one of the texts directly in it. -/
def mentions (own : Bool) (texts : List String) (spot : Spot) : Bool :=
  let inside := if isFrame spot then []
    else if own then (ownContentTexts spot).map String.toList
    else [(String.join (contentTextsOf spot.nodes)).toList]
  texts.any fun text => inside.any (Text.hasMark text.toList)

/-- Whether the text of an element is empty or a line end. -/
def isBlankText (spot : Spot) : Bool :=
  let text := String.join (contentTextsOf spot.nodes)
  text.isEmpty || text = "\n"

/-- The first of some spots by name. -/
def firstNamed? (name : String) (spots : List Spot) : Option Spot :=
  spots.find? fun spot => spot.name = name

/-- The language that a page declares in its head. -/
def declaredLanguage? (page : Spot) : Option String := do
  let html ← firstNamed? "html" page.children
  let head ← firstNamed? "head" html.children
  let metas := head.children.filter fun spot =>
    spot.name = "meta" && (value? spot "http-equiv").map (·.map Char.toLower) = some "content-language"
  metas.findSome? fun spot => match value? spot "content" with
    | some content => if content.isEmpty then none else some content
    | none => none

/-- The language of an element: that of the nearest element around it with one, or the one that the page declares. -/
def language? (spot : Spot) : Option String :=
  let given := (spot :: spot.ancestors).filterMap fun s => value? s "lang"
  match given.find? fun language => !language.isEmpty with
  | some language => some language
  | none => match given with
    | _ :: _ => some ""
    | [] => ((spot :: spot.ancestors).getLast?).bind declaredLanguage?

/-! ### Selectors -/

/-- Whether a name needs no definition. -/
def isDefined (name : String) : Bool :=
  !name.contains '-' || name.contains ':'

mutual

/-- Whether a selector fits an element. -/
def fits (range : Range) (spot : Spot) : Selector → Bool
  | .never => false
  | .all tests tie => allHold range spot tests && tied range spot tie

/-- Whether an element stands to another one as it has to. -/
def tied (range : Range) (spot : Spot) : Tie → Bool
  | .free => true
  | .back .below other => spot.ancestors.any fun s => fits range s other
  | .back .directlyBelow other => spot.parent?.any fun s => fits range s other
  | .back .later other => spot.earlier.any fun s => fits range s other
  | .back .next other => spot.earlier.head?.any fun s => fits range s other
  | .ahead .below other => spot.descendants.any fun s => fits range s other
  | .ahead .directlyBelow other => spot.children.any fun s => fits range s other
  | .ahead .later other => spot.later.any fun s => fits range s other
  | .ahead .next other => spot.later.head?.any fun s => fits range s other

/-- Whether an element passes a test. -/
def passes (range : Range) (spot : Spot) : Test → Bool
  | .name origin? name =>
    origin?.all (· = "*") && (name = "*" || name.map Char.toLower = spot.name.map Char.toLower)
  | .identifier id => (spot.attribute? "id").getD "" = id
  | .inClass name => (Text.fields Text.isBlank ((spot.attribute? "class").getD "").toList).contains name.toList
  | .valued test => test.fits spot
  | .root => isRoot range spot
  | .scope => range.scope? = some spot.address
  | .empty => isEmpty spot
  | .defined => isDefined spot.name
  | .position cycle fromEnd sameName among =>
    let counts (s : Spot) : Bool := (!sameName || s.name.map Char.toLower = spot.name.map Char.toLower) &&
      (among.isEmpty || fitsAny range s among)
    let before := (if fromEnd then spot.later else spot.earlier).countP counts
    counts spot && cycle.isSought (spot.besides.length + 1) && cycle.has (Int.ofNat before + 1)
  | .mentions own texts => mentions own texts spot
  | .language ranges => (language? spot).any fun tag => ranges.any fun range => Language.fits range tag
  | .blank => isBlankText spot
  | .anyOf negated selectors => fitsAny range spot selectors != negated

/-- Whether an element passes every one of some tests. -/
def allHold (range : Range) (spot : Spot) : List Test → Bool
  | [] => true
  | test :: rest => passes range spot test && allHold range spot rest

/-- Whether one of some selectors fits an element. -/
def fitsAny (range : Range) (spot : Spot) : List Selector → Bool
  | [] => false
  | selector :: rest => fits range spot selector || fitsAny range spot rest

end

/-- The range of a search that starts from a spot.  From the page, it starts from the element around it. -/
def Range.ofSpot (spot : Spot) : Range :=
  let root? := (((spot :: spot.ancestors).getLast?).bind fun page => page.children.head?).map Spot.address
  ⟨root?, match spot with
    | .page _ => root?
    | _ => some spot.address⟩

/-- The elements below a spot that one of some selectors fits, in the order of the page. -/
def select (spot : Spot) (selectors : List Selector) : List Spot :=
  let range := Range.ofSpot spot
  spot.descendants.filter fun s => fitsAny range s selectors

end SiteReader.Selector
