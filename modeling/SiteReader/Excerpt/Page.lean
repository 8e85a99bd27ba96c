import SiteReader.Excerpt.Basic
import SiteReader.Markup.Printer
import SiteReader.Markup.Reader
import SiteReader.Notes
import SiteReader.Pattern.Matcher
import SiteReader.Pattern.Parser
import SiteReader.Selector.Matcher
import SiteReader.Selector.Parser
import SiteReader.Url.Join

/-!
# What rules take from pages

The first alternative of a rule that yields anything counts.  An alternative with an invalid selector is skipped with a
warning; an invalid regular expression has no effect but a warning.
-/

namespace SiteReader.Excerpt

open Markup (Spot)

/-! ### Chains -/

/-- The item at a place, which counts from the end if it is negative. -/
def itemAt? {α : Type} (place : Int) (items : List α) : Option α :=
  if 0 ≤ place then items[place.toNat]?
  else if -place ≤ items.length then items[(items.length + place).toNat]?
  else none

/-- The items without the one at a place. -/
def eraseAt {α : Type} (place : Int) (items : List α) : List α :=
  if 0 ≤ place then items.eraseIdx place.toNat
  else if -place ≤ items.length then items.eraseIdx (items.length + place).toNat
  else items

/-- The matches that a step keeps. -/
def Step.keep {α : Type} (step : Step) (found : List α) : List α :=
  match step.pick?, step.drop? with
  | some place, _ => (itemAt? place found).toList
  | none, some place => eraseAt place found
  | none, none => found

/-- The spots without repetitions. -/
def distinctSpots (spots : List Spot) : List Spot :=
  let add (found : List (List Nat × Spot)) (spot : Spot) : List (List Nat × Spot) :=
    let address := spot.address
    if found.any (·.1 = address) then found else (address, spot) :: found
  (spots.foldl add []).reverse.map (·.2)

/-- Follows a step from some spots; `none` if its selector is invalid.  What is found from a single spot is distinct. -/
def follow (step : Step) (spots : List Spot) : Except Fault (Option (List Spot)) :=
  if spots.isEmpty then .ok (some [])
  else match Selector.parse step.selector with
    | .error .unsupported => .error .unsupportedSelector
    | .error .malformed => .ok none
    | .ok selectors =>
      let found (spot : Spot) : List Spot := step.keep (Selector.select spot selectors)
      .ok <| some <| match spots with
        | [spot] => found spot
        | _ => distinctSpots (spots.flatMap found)

/-- Follows the steps of a chain; `none` if a selector is invalid. -/
def followAll : List String → List Spot → Except Fault (Option (List Spot))
  | [], spots => .ok (some spots)
  | text :: rest, spots => do
    let step ← Step.parse text
    if step.selector.isEmpty then return some []
    match ← follow step spots with
    | some found => followAll rest found
    | none => return none

/-! ### Texts -/

/-- What an attribute of an element asks for: its text, what is inside it, its own texts, or a value. -/
def attributeText (node : Markup) (attribute? : Option String) : String :=
  let name := attribute?.getD "text"
  if name = "text" then node.innerText
  else if name = "html" then node.inner
  else if name = "ownText" then String.join node.ownTexts
  else if name = "textNodes" then "\n".intercalate ((node.ownTexts.map trimmed).filter fun text => !text.isEmpty)
  else (node.attribute? name).getD ""

/-- What a regular expression finds in a text: its first group if it has one that takes part, else all of the match. -/
def narrow (text pattern : String) : Noted String :=
  match Pattern.parse pattern with
  | .error .invalid => do
    warn (.invalidPattern pattern)
    return text
  | .error .endlessCount => throw .overflow
  | .error .conflictingFlags => throw .conflictingFlags
  | .ok (pattern, _) => match pattern.search text.toList with
    | none => return ""
    | some found => return String.ofList ((found.groups.lookup 1).getD found.text)

/-- The attributes whose values are addresses. -/
def addressAttributes : List String := ["href", "src", "url"]

/-- A text as an address, which the base completes. -/
def completed (base : String) (attribute? : Option String) (text : String) : Except Fault String :=
  if !text.isEmpty && attribute?.any addressAttributes.contains && !base.isEmpty && !text.startsWith "data:" then
    Url.join base text
  else .ok text

/-- The node of a spot. -/
def nodeOf : Spot → Markup
  | .page nodes => .element "" [] nodes
  | .child _ _ node _ => node

/-- The elements that an alternative finds; without steps it finds none. -/
def elements (page : List Markup) (option : String) (chain : Chain) : Noted (List Markup) := do
  if chain.steps.isEmpty then return []
  match ← Noted.ofExcept (followAll chain.steps [.page page]) with
  | some found => return found.map nodeOf
  | none => do
    warn (.invalidSelector option)
    return []

/-- The text that an alternative yields. -/
def alternativeText (page : List Markup) (pattern base option : String) : Noted String := do
  let chain := Chain.parse option
  match ← elements page option chain with
  | [] => return ""
  | node :: _ => do
    let text := trimmed (attributeText node chain.attribute?)
    let text ← if pattern.isEmpty then pure text else do pure (trimmed (← narrow text pattern))
    Noted.ofExcept (completed base chain.attribute? text)

/-- The first text of some alternatives that is not empty. -/
def firstText (page : List Markup) (pattern base : String) : List String → Noted String
  | [] => return ""
  | option :: rest => do
    let text ← alternativeText page pattern base option
    if text.isEmpty then firstText page pattern base rest else return text

/-- The text that a rule takes from a page. -/
def selectText (html rule base : String) : Noted String := do
  if rule.isEmpty then return ""
  let (head, pattern) := (Text.cut? ['#', '#'] rule.toList).getD (rule.toList, [])
  if isLiteral head then return String.ofList head
  let page ← Noted.ofExcept (Markup.parse html)
  firstText page (String.ofList pattern) base (alternatives head)

/-- The elements of the first of some alternatives that finds any. -/
def firstElements (page : List Markup) : List String → Noted (List Markup)
  | [] => return []
  | option :: rest => do
    match ← elements page option (Chain.parse option) with
    | [] => firstElements page rest
    | found => return found

/-- The elements that a rule takes from a page, as they are written. -/
def selectList (html rule : String) : Noted (List String) := do
  if rule.isEmpty then return []
  let page ← Noted.ofExcept (Markup.parse html)
  return (← firstElements page (alternatives rule.toList)).map Markup.outer

end SiteReader.Excerpt
