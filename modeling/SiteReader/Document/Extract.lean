import SiteReader.Document.Basic
import SiteReader.Excerpt.Page
import SiteReader.Rule.Template

/-!
# Extraction

The rules of a field and of a list of items, for documents of either kind: trees are read by paths and templates, pages
by selectors.
-/

namespace SiteReader

/-! ### Fields -/

/-- The text of a field of a tree. -/
def Tree.fieldText (evaluator? : Option Evaluator) (root : Tree) (rule : String) : Noted String :=
  if Text.hasMark ['{', '{'] rule.toList then Template.render root rule
  else do
    let rule ← Rule.parse rule true
    let resolution ← Noted.ofExcept (rule.resolve root)
    return (← resolution.apply evaluator?).asField

/-- The text of a field of a page.  A rule that is a script alone is given the whole page. -/
def Excerpt.fieldText (evaluator? : Option Evaluator) (html base rule : String) : Noted String := do
  let (head, script?) := Rule.splitScriptChars rule.toList
  let selector := Text.trim ((Text.dropHeadAnyCase? "@css:".toList head).getD head)
  let run (script : List Char) (text : String) : Noted String := do
    return (← runScript evaluator? (String.ofList script) (.text text)).asField
  match script? with
  | none => selectText html (String.ofList selector) base
  | some script =>
    if selector.isEmpty then run script html
    else
      let text ← selectText html (String.ofList selector) base
      if text.isEmpty || evaluator?.isNone then return text else run script text

namespace Document

/-- The text of a field of a document, empty without a rule. -/
def fieldText (evaluator? : Option Evaluator) (base rule : String) (document : Document) : Noted String :=
  if rule.isEmpty then return ""
  else match document with
    | .tree root => root.fieldText evaluator? rule
    | .page html => Excerpt.fieldText evaluator? html base rule

/-! ### Items -/

/-- The items of a list of a tree: those of the array that the rule finds, or the one value that it finds. -/
def treeItems (evaluator? : Option Evaluator) (root : Tree) (rule : String) : Noted (List Tree) := do
  let rule ← Rule.parse rule true
  let resolution ← Noted.ofExcept (rule.resolve root)
  match ← resolution.apply evaluator? with
  | .array items => return items
  | value => return if resolution.isFound then [value] else []

/-- The items of a list of a document, none without a rule.  Those of a page are elements as they are written. -/
def items (evaluator? : Option Evaluator) (rule : String) (document : Document) : Noted (List Tree) :=
  if rule.isEmpty then return []
  else match document with
    | .tree root => treeItems evaluator? root rule
    | .page html => do return (← Excerpt.selectList html rule).map Tree.text

/-- The fields of an item of a list, those without a rule left out. -/
def row (field : String → Noted String) : List (String × String) → Noted (List (String × String))
  | [] => return []
  | (key, rule) :: rest => do
    if rule.isEmpty then row field rest
    else
      let text ← field rule
      return (key, text) :: (← row field rest)

/-- The fields of every item of a list. -/
def rows (evaluator? : Option Evaluator) (base listRule : String) (fields : List (String × String))
    (document : Document) : Noted (List (List (String × String))) := do
  let found ← document.items evaluator? listRule
  match document with
  | .tree _ => found.mapM fun item => row (item.fieldText evaluator?) fields
  | .page _ => found.mapM fun item => row (Excerpt.fieldText evaluator? item.plainText base) fields

end Document

end SiteReader
