import SiteReader.Failure
import SiteReader.Json.Printer
import SiteReader.Json.Reader
import SiteReader.Tree.Display

/-!
# Credential records

Cookies and tokens of one source.  Records are kept as a JSON list of objects; a record is only read if it tells the
source it belongs to.
-/

namespace SiteReader

/-- Cookies, by origin, host and port, or host, and tokens of a source. -/
structure Credential where
  sourceId : String
  cookies : List (String × String)
  tokens : List (String × String)
deriving DecidableEq, Repr

namespace Credential

/-! ### Records as trees -/

def mapTree (entries : List (String × String)) : Tree :=
  .object (entries.map fun (key, value) => (key, .text value))

/-- The record as an object. -/
def toTree (record : Credential) : Tree :=
  .object [("sourceId", .text record.sourceId), ("cookies", mapTree record.cookies),
    ("tokens", mapTree record.tokens)]

/-- The texts of the fields of an object that are not null; anything else has none. -/
def textMap : Option Tree → List (String × String)
  | some (.object fields) => fields.filterMap fun (key, value) =>
    match value with
    | .null => none
    | value => some (key, value.plainText)
  | _ => []

/-- Reads a record from the fields of an object. -/
def ofFields (fields : List (String × Tree)) : Except StoreCause Credential :=
  match (Tree.field? "sourceId" fields).or (Tree.field? "source_id" fields) with
  | some (.text id) =>
    if id.isEmpty then .error (.recordWithoutId (Tree.object fields).quotedText)
    else .ok ⟨id, textMap (Tree.field? "cookies" fields), textMap (Tree.field? "tokens" fields)⟩
  | _ => .error (.recordWithoutId (Tree.object fields).quotedText)

/-- Reads the records of a list; items that are no objects are left out. -/
def ofItems : List Tree → Except StoreCause (List Credential)
  | [] => .ok []
  | .object fields :: rest => do
    let record ← ofFields fields
    return record :: (← ofItems rest)
  | _ :: rest => ofItems rest

/-! ### Lists of records -/

/-- The first record of a source. -/
def find? (sourceId : String) (records : List Credential) : Option Credential :=
  List.find? (fun record => record.sourceId = sourceId) records

/-- Puts a record in place of the first one of its source, or at the end. -/
def upsert (record : Credential) : List Credential → List Credential
  | [] => [record]
  | existing :: rest =>
    if existing.sourceId = record.sourceId then record :: rest else existing :: upsert record rest

/-- The first non-empty cookie under the given keys. -/
def cookie? (record : Credential) : List String → Option String
  | [] => none
  | key :: rest =>
    match record.cookies.lookup key with
    | some value => if value.isEmpty then cookie? record rest else some value
    | none => cookie? record rest

/-! ### Records as file contents -/

/-- The content of the file that holds the records. -/
def fileText (records : List Credential) : String :=
  Json.render Json.indented (.array (records.map toTree))

/-- Reads the content of a file of records; a blank file holds none. -/
def ofFileText (path text : String) : Except StoreCause (List Credential) :=
  if (trimmed text).isEmpty then .ok []
  else match Json.parse? text with
    | none => .error (.notJson path)
    | some (.array items) => ofItems items
    | some _ => .error (.notList path)

end Credential

end SiteReader
