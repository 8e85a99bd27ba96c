import SiteReader.Notes
import SiteReader.Path.Evaluate
import SiteReader.Text.Case

/-!
# Rules

A rule holds alternative paths, tried in order until one yields data, and a script for the value that was found.  The
text of a rule may start with `@json:`; a block `<js>…</js>` at its end or the text after `@js:` is its script; the
paths stand between `&&` or, if there is none, between `||`.
-/

namespace SiteReader

/-- Alternative paths, and a script for the value found. -/
structure Rule where
  paths : List Path
  script? : Option String
  /-- There is no text of paths at all: the script is for the whole document. -/
  scriptOnly : Bool

namespace Rule

/-! ### Splitting the text of a rule -/

/-- The paths and the script of a text that ends with a closed script block, if it does. -/
def cutBlock? (cs : List Char) : Option (List Char × List Char) := do
  let body ← Text.dropTail? "</js>".toList (Text.trimEnd cs)
  Text.cut? "<js>".toList body

/-- Splits off the script at the end of a text. -/
def splitScriptChars (cs : List Char) : List Char × Option (List Char) :=
  match (cutBlock? cs).or (Text.cutAnyCase? "@js:".toList cs) with
  | some (paths, script) => (Text.trim paths, some (Text.trim script))
  | none => (Text.trim cs, none)

/-- Splits off the script at the end of a rule. -/
def splitScript (raw : String) : String × Option String :=
  let (paths, script?) := splitScriptChars raw.toList
  (String.ofList paths, script?.map String.ofList)

/-- The alternatives of a text of paths, without blank ones. -/
def splitAlternativesChars (cs : List Char) : List (List Char) :=
  let parts :=
    if Text.hasMark "&&".toList cs then Text.splitOn "&&".toList cs
    else if Text.hasMark "||".toList cs then Text.splitOn "||".toList cs
    else [cs]
  (parts.map Text.trim).filter (!·.isEmpty)

/-- The alternatives of a text of paths. -/
def splitAlternatives (text : String) : List String :=
  (splitAlternativesChars text.toList).map String.ofList

/-- The text without the marker at its start and without blanks at either end. -/
def dropMarker (marker cs : List Char) : List Char :=
  let cs := Text.trim cs
  Text.trim ((Text.dropHeadAnyCase? marker cs).getD cs)

/-! ### Reading rules -/

/-- Whether a text is a chain of plain names, short for a path. -/
def isBareKey (cs : List Char) : Bool :=
  !cs.isEmpty && cs.all fun c => c = '.' || Text.isWord c

/-- Reads the alternatives; those that are no path are skipped with a warning. -/
def readPaths (bareKeys : Bool) : List (List Char) → Noted (List Path)
  | [] => pure []
  | candidate :: rest => do
    let text := if bareKeys && isBareKey candidate then '$' :: '.' :: candidate else candidate
    match Path.parse (String.ofList text) with
    | .ok path => return path :: (← readPaths bareKeys rest)
    | .error .endlessIndex => throw .endlessNumeral
    | .error defect => do
      warn (.skippedAlternative defect)
      readPaths bareKeys rest

/-- Reads a rule.  With `bareKeys` a chain of plain names stands for the path of that chain. -/
def parse (raw : String) (bareKeys : Bool) : Noted Rule := do
  let text := dropMarker "@json:".toList raw.toList
  let (pathText, script?) := splitScriptChars text
  if pathText.isEmpty && script?.isSome then
    return ⟨[], script?.map String.ofList, true⟩
  else
    return ⟨← readPaths bareKeys (splitAlternativesChars pathText), script?.map String.ofList, false⟩

/-- The rule without alternatives. -/
def empty : Rule := ⟨[], none, false⟩

/-- Reads a rule out of a document, where anything but a text holds no alternatives. -/
def ofTree (raw : Tree) (bareKeys : Bool) : Noted Rule :=
  match raw with
  | .text s => parse s bareKeys
  | _ => pure empty

end Rule

/-! ### Resolving rules -/

/-- A value found by a rule, and the script for it. -/
structure Resolution where
  value : Tree
  script? : Option String

/-- A result counts when it is neither null nor an empty array. -/
def Tree.isUsable : Tree → Bool
  | .null => false
  | .array items => !items.isEmpty
  | _ => true

def Resolution.isFound (resolution : Resolution) : Bool :=
  resolution.value.isUsable

namespace Rule

/-- The value of the first path that yields one that counts. -/
def firstUsable (root : Tree) : List Path → Except Fault (Option Tree)
  | [] => .ok none
  | path :: rest => do
    match ← path.evaluate root with
    | some value => if value.isUsable then return some value else firstUsable root rest
    | none => firstUsable root rest

/-- Resolves a rule against a document; the empty array stands for a miss and comes without script. -/
def resolve (root : Tree) (rule : Rule) : Except Fault Resolution :=
  if rule.scriptOnly then .ok ⟨root, rule.script?⟩
  else do
    match ← firstUsable root rule.paths with
    | some value => return ⟨value, rule.script?⟩
    | none => return ⟨.array [], none⟩

end Rule

/-- Runs a script on a value. -/
abbrev Evaluator := String → Tree → Tree

/-- Runs a script by the evaluator, with a note of the call; without an evaluator the value stays as it is. -/
def runScript (evaluator? : Option Evaluator) (script : String) (value : Tree) : Noted Tree :=
  match evaluator? with
  | some evaluator => do
    noteCall script value
    return evaluator script value
  | none => pure value

/-- Runs the script of a resolution on the value that was found, if both are there. -/
def Resolution.apply (evaluator? : Option Evaluator) (resolution : Resolution) : Noted Tree :=
  match resolution.script? with
  | some script => if resolution.isFound then runScript evaluator? script resolution.value else pure resolution.value
  | none => pure resolution.value

end SiteReader
