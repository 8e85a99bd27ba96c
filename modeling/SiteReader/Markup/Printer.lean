import SiteReader.Markup.Basic
import SiteReader.Text.Case

/-!
# Writing markup

The attributes of an element are written in the order of their names.  Text is escaped where it could be taken for
markup; elements without content close themselves.
-/

namespace SiteReader.Markup

/-! ### Text and values -/

def escapeChar (c : Char) : List Char :=
  match c with
  | '&' => "&amp;".toList
  | '<' => "&lt;".toList
  | '>' => "&gt;".toList
  | c => [c]

/-- Text in which nothing can be taken for markup. -/
def escape (cs : List Char) : List Char :=
  cs.flatMap escapeChar

/-- A value in quotation marks that it does not hold, which are double ones if possible. -/
def quote (cs : List Char) : List Char :=
  if !cs.contains '"' then '"' :: cs ++ ['"']
  else if !cs.contains '\'' then '\'' :: cs ++ ['\'']
  else '"' :: Text.replaceAll ['"'] "&quot;".toList cs ++ ['"']

/-- A text with the marks of its kind. -/
def textForm (isRaw : Bool) (kind : TextKind) (content : List Char) : List Char :=
  match kind with
  | .comment => "<!--".toList ++ content ++ "-->".toList
  | .cdata => "<![CDATA[".toList ++ content ++ "]]>".toList
  | .instruction => "<?".toList ++ content ++ ['>']
  | .declaration => "<?".toList ++ content ++ "?>".toList
  | .doctype => "<!DOCTYPE ".toList ++ content ++ ">\n".toList
  | .plain => if isRaw then content else escape content
  | .inside _ => if isRaw then content else escape content

/-! ### Attributes -/

/-- The name of the character set that pages are written in. -/
def writtenCharset : List Char := "utf-8".toList

/-- Replaces each character set that a content type names; `skip` characters are to be left out, and `lineStart` tells
whether a line starts here. -/
def nameCharset : Nat → Bool → List Char → List Char
  | _, _, [] => []
  | skip + 1, _, _ :: r => nameCharset skip false r
  | 0, lineStart, c :: r =>
    let mark := "charset=".toList
    let length (cs : List Char) : Nat := mark.length + ((cs.drop mark.length).takeWhile (· != ';')).length
    if lineStart && mark.isPrefixOf (c :: r) then
      mark ++ writtenCharset ++ nameCharset (length (c :: r) - 1) false r
    else if (c = ';' || Text.isBlank c) && mark.isPrefixOf r then
      c :: mark ++ writtenCharset ++ nameCharset (length r) false r
    else c :: nameCharset 0 (c = '\n') r

/-- The value of an attribute as it is written.  The character set that a page says it is in becomes the one that it is
written in. -/
def writtenValue (element : String) (attributes : List (String × String)) (name value : String) : List Char :=
  if element = "meta" && name = "charset" then writtenCharset
  else if element = "meta" && name = "content" && (attributes.lookup "charset").isNone &&
      (attributes.lookup "http-equiv").map lowered = some "content-type" then
    nameCharset 0 true value.toList
  else value.toList

/-- The attributes of an element as they are written, each after a space. -/
def attributesForm (element : String) (attributes : List (String × String)) : List Char :=
  (attributes.mergeSort fun a b => a.1 ≤ b.1).flatMap fun (name, value) =>
    ' ' :: name.toList ++ '=' :: quote (escape (writtenValue element attributes name value))

/-! ### Nodes -/

mutual

/-- A node as it is written; `isRaw` tells whether text around it is written as it is. -/
def form (isRaw : Bool) : Markup → List Char
  | text kind content => textForm isRaw kind content.toList
  | element name attributes children =>
    let start := '<' :: name.toList ++ attributesForm name attributes
    if children.isEmpty && voidElements.contains name then start ++ "/>".toList
    else start ++ '>' :: formOf (rawTextElements.contains name) children ++ "</".toList ++ name.toList ++ ['>']

def formOf (isRaw : Bool) : List Markup → List Char
  | [] => []
  | node :: rest => form isRaw node ++ formOf isRaw rest

end

/-- A node as it is written. -/
def outer (node : Markup) : String :=
  String.ofList (form false node)

/-- What is inside a node, as it is written. -/
def inner (node : Markup) : String :=
  match node with
  | element name _ children => String.ofList (formOf (rawTextElements.contains name) children)
  | text _ content => content

end SiteReader.Markup
