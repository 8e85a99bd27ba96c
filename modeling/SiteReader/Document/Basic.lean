import SiteReader.Json.Reader
import SiteReader.Tree.Display

/-!
# Documents

What a site answers is a document: a tree where it can be read as JSON with an object or an array at its top, and
otherwise a text, which is taken for a page.
-/

namespace SiteReader

inductive Document where
  | tree (root : Tree)
  | page (text : String)

namespace Document

/-- Reads a document. -/
def ofText (text : String) : Document :=
  let body := Text.trimStart text.toList
  if body.head? = some '{' || body.head? = some '[' then
    match Json.parse? (String.ofList body) with
    | some root => .tree root
    | none => .page text
  else .page text

/-- The document that a value is: a text is read, any other scalar is shown. -/
def ofTree (value : Tree) : Document :=
  match value with
  | .text s => ofText s
  | value => if value.isContainer then .tree value else .page value.plainText

end Document

end SiteReader
