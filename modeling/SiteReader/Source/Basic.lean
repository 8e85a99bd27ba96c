import SiteReader.Directive.Parser

/-!
# Sources

A source is one site with its name, its address, the header fields its requests carry, and its rules in sections.  It is
read from an object in which several keys may give the same thing; what is missing falls back on something else.
-/

namespace SiteReader

structure Source where
  id : String
  name : String
  url : String
  enabled : Bool
  header? : Option String
  relay? : Option String
  searchUrl? : Option String
  /-- Sections in order, each with its rules by name. -/
  rules : List (String × List (String × String))
deriving DecidableEq, Repr

namespace Source

/-! ### Reading sources -/

/-- The keys of rule sections at the top level, and the sections they belong to. -/
def sectionKeys : List (String × String) := [
  ("ruleSearch", "search"), ("ruleExplore", "explore"), ("ruleFind", "explore"), ("ruleBookInfo", "bookInfo"),
  ("ruleToc", "toc"), ("ruleContent", "content")]

/-- The text of the first of some keys whose value says something. -/
def firstText? (fields : List (String × Tree)) : List String → Option String
  | [] => none
  | key :: rest =>
    match Tree.field? key fields with
    | some value => if value.isTruthy then some value.plainText else firstText? fields rest
    | none => firstText? fields rest

/-- The rules of a section, which are the texts among its fields. -/
def ruleMap (fields : List (String × Tree)) : List (String × String) :=
  fields.filterMap fun (key, value) => match value with
    | .text rule => some (key, rule)
    | _ => none

/-- A text as it is, null as nothing, and anything else as JSON text. -/
def optionalText? : Option Tree → Option String
  | none => none
  | some .null => none
  | some (.text s) => some s
  | some t => some (Json.render Json.spaced t)

/-- The sections inside the field `rules`. -/
def nestedRules (fields : List (String × Tree)) : List (String × List (String × String)) :=
  match Tree.field? "rules" fields with
  | some (.object sections) => sections.filterMap fun (name, entries) => match entries with
    | .object entries => some (name, ruleMap entries)
    | _ => none
  | _ => []

/-- The sections with further rules added to one of them. -/
def addRules (sections : List (String × List (String × String))) (name : String) (rules : List (String × String)) :
    List (String × List (String × String)) :=
  setEntry name (updateEntries ((sections.lookup name).getD []) rules) sections

/-- The sections of a source, those at the top level after the nested ones. -/
def rulesOf (fields : List (String × Tree)) : List (String × List (String × String)) :=
  sectionKeys.foldl (fun sections (key, name) => match Tree.field? key fields with
    | some (.object entries) => addRules sections name (ruleMap entries)
    | _ => sections) (nestedRules fields)

/-- Reads a source from the fields of an object. -/
def ofFields (fields : List (String × Tree)) : Source :=
  let url := (firstText? fields ["bookSourceUrl", "url"]).getD ""
  let name := (firstText? fields ["bookSourceName", "name"]).getD url
  { id := (firstText? fields ["id"]).getD (if url.isEmpty then name else url)
    name
    url
    enabled := match (Tree.field? "enabled" fields).or (Tree.field? "enable" fields) with
      | some value => value.isTruthy
      | none => true
    header? := optionalText? (Tree.field? "header" fields)
    relay? := optionalText? (Tree.field? "proxyBase" fields)
    searchUrl? := optionalText? (Tree.field? "searchUrl" fields)
    rules := rulesOf fields }

/-- The source that only has an identifier. -/
def bare (id : String) : Source :=
  ⟨id, id, "", true, none, none, none, []⟩

/-! ### Looking things up -/

/-- A rule of a section; an empty one counts as missing. -/
def rule? (source : Source) (sectionName ruleName : String) : Option String :=
  match ((source.rules.lookup sectionName).getD []).lookup ruleName with
  | some rule => if rule.isEmpty then none else some rule
  | none => none

/-- The header fields that the requests of the source carry. -/
def defaultHeaders (source : Source) : Noted (List (String × String)) :=
  match source.header? with
  | none => pure []
  | some header =>
    if (trimmed header).isEmpty then pure []
    else match Directive.lenientObject? header with
      | some fields => pure (fields.map fun (key, value) => (key, value.plainText))
      | none => do
        warn (.unreadableHeader source.name header)
        return []

/-! ### Collections of sources -/

/-- The sources of a document: a list, whose items that are no objects are left out, or a single object. -/
def ofDocument? : Tree → Option (List Source)
  | .object fields => some [ofFields fields]
  | .array items => some (items.filterMap fun item => match item with
    | .object fields => some (ofFields fields)
    | _ => none)
  | _ => none

/-- The first source of that identifier or else the first of that address or name. -/
def find? (sources : List Source) (id : String) : Option Source :=
  (sources.find? fun source => source.id = id).or
    (sources.find? fun source => source.url = id || source.name = id)

end Source

end SiteReader
