import SiteReader.Entry
import SiteReader.Markup.Basic
import SiteReader.Markup.Reference
import SiteReader.Markup.Token

/-!
# Reading pages

The tree of a page is built from its tokens.  No end tag is implied: an element is open until an end tag of its name, or
of the name of an element around it, or until the page ends.  Elements without content of their own close at once.
-/

namespace SiteReader.Markup

/-! ### Attributes -/

/-- The attributes whose values are lists of words, in any element. -/
def wordListAttributes : List String := ["class", "accesskey", "dropzone"]

/-- The attributes whose values are lists of words in some elements. -/
def wordListAttributesOf (element : String) : List String :=
  match element with
  | "a" => ["rel", "rev"]
  | "link" => ["rel", "rev"]
  | "td" => ["headers"]
  | "th" => ["headers"]
  | "form" => ["accept-charset"]
  | "object" => ["archive"]
  | "area" => ["rel"]
  | "icon" => ["sizes"]
  | "iframe" => ["sandbox"]
  | "output" => ["for"]
  | _ => []

/-- A list of words has one space between them. -/
def plainValue (element name : String) (value : List Char) : List Char :=
  if wordListAttributes.contains name || (wordListAttributesOf element).contains name then
    Text.join [' '] (Text.fields Text.isBlank value)
  else value

/-- The attributes of an element.  The last of several values counts, in the place of the first. -/
def attributesOf (element : String) :
    List (String × String) → List (List Char × List Char) → Except Fault (List (String × String))
  | done, [] => .ok done
  | done, (name, value) :: rest => do
    let name := String.ofList name
    let value ← resolveValue value
    attributesOf element (setEntry name (String.ofList (plainValue element name value)) done) rest

/-! ### Open elements -/

/-- An element whose end is still to come, with its children so far, the last first. -/
structure OpenElement where
  name : String
  attributes : List (String × String)
  children : List Markup

/-- A page that is being read: its nodes outside of open elements, the last first; the open elements, the innermost
first; and the pieces of text since the last tag, the last first. -/
structure Draft where
  nodes : List Markup
  opened : List OpenElement
  pieces : List (List Char)

namespace Draft

def empty : Draft := ⟨[], [], []⟩

/-- Adds a node to the innermost open element. -/
def add (draft : Draft) (node : Markup) : Draft :=
  match draft.opened with
  | [] => { draft with nodes := node :: draft.nodes }
  | inner :: outer => { draft with opened := { inner with children := node :: inner.children } :: outer }

/-- White space that is shortened. -/
def isPlainSpace (c : Char) : Bool :=
  [' ', '\n', '\t', '\x0c', '\r'].contains c

/-- The text that stands for pieces: nothing but white space becomes a line end or a space, unless an open element keeps
it. -/
def textOfPieces (draft : Draft) : List Char :=
  let content := draft.pieces.reverse.flatten
  if content.all isPlainSpace && !draft.opened.any fun o => spacedElements.contains o.name then
    if content.contains '\n' then ['\n'] else [' ']
  else content

/-- The kind of plain text at the present place. -/
def plainKind (draft : Draft) : TextKind :=
  match draft.opened.find? fun o => hiddenTextElements.contains o.name with
  | some o => .inside o.name
  | none => .plain

/-- Ends a text. -/
def endText (draft : Draft) (kind : TextKind) : Draft :=
  if draft.pieces.isEmpty then draft
  else
    let kind := if kind = .plain then draft.plainKind else kind
    { draft.add (.text kind (String.ofList draft.textOfPieces)) with pieces := [] }

def addPiece (draft : Draft) (piece : List Char) : Draft :=
  { draft with pieces := piece :: draft.pieces }

/-- Adds a text of its own kind. -/
def addText (draft : Draft) (kind : TextKind) (content : List Char) : Draft :=
  ((draft.endText .plain).addPiece content).endText kind

/-- Closes the innermost open element. -/
def closeInner (draft : Draft) : Draft :=
  match draft.opened with
  | [] => draft
  | inner :: outer =>
    { draft with opened := outer }.add (.element inner.name inner.attributes inner.children.reverse)

/-- Closes open elements up to the innermost one of a name, which there has to be. -/
def closeTo (name : String) : Nat → Draft → Draft
  | 0, draft => draft
  | fuel + 1, draft =>
    match draft.opened with
    | [] => draft
    | inner :: _ => if inner.name = name then draft.closeInner else closeTo name fuel draft.closeInner

/-- Closes an element by name; without an open element of that name nothing happens. -/
def close (draft : Draft) (name : String) : Draft :=
  let draft := draft.endText .plain
  if draft.opened.any fun o => o.name = name then closeTo name draft.opened.length draft else draft

/-- Takes a start tag; `isClosed` tells whether it is an end tag as well, which that of a void element always is. -/
def startTag (draft : Draft) (name : String) (attributes : List (String × String)) (isClosed : Bool) : Draft :=
  let draft := draft.endText .plain
  let draft := { draft with opened := ⟨name, attributes, []⟩ :: draft.opened }
  if isClosed || voidElements.contains name then draft.closeInner else draft

/-- Takes a token. -/
def take (draft : Draft) : Token → Except Fault Draft
  | .text content => .ok (draft.addPiece content)
  | .named name => .ok (draft.addPiece (textOfName name))
  | .numbered base digits => do return draft.addPiece [numberedChar (← referenceNumber base digits)]
  | .opening name attributes isClosed => do
    let name := String.ofList name
    return draft.startTag name (← attributesOf name [] attributes) isClosed
  | .closing name => .ok (draft.close (String.ofList name))
  | .comment content => .ok (draft.addText .comment content)
  | .instruction content => .ok (draft.addText .instruction content)
  | .doctype content => .ok (draft.addText .doctype (content.drop 8))
  | .marked content =>
    if Text.upper (content.take 6) = "CDATA[".toList then .ok (draft.addText .cdata (content.drop 6))
    else .ok (draft.addText .declaration content)

/-- The nodes of a page that has been read to its end. -/
def finish (draft : Draft) : List Markup :=
  let draft := draft.endText .plain
  (draft.opened.length.repeat closeInner draft).nodes.reverse

end Draft

/-- Reads a page. -/
def parse (text : String) : Except Fault (List Markup) := do
  let tokens ← Token.scan text.toList
  return (← tokens.foldlM Draft.take Draft.empty).finish

end SiteReader.Markup
