import SiteReader.Json.Printer
import SiteReader.Rule.Basic

/-!
# Field texts and templates

A field receives the text of the value that its rule found; the items of an array are joined with commas.  A template
is a text with rules in double braces, each of which is replaced by the text of its value, without a second scan of
the result.
-/

namespace SiteReader

namespace Tree

/-- The text of a value: texts as they are, nothing for null and the empty array, JSON text for everything else. -/
def asText : Tree → String
  | .null => ""
  | .text s => s
  | .boolean b => if b then "true" else "false"
  | .array [] => ""
  | t => Json.render Json.compact t

/-- The text of a field, in which the items of an array are joined with commas. -/
def asField : Tree → String
  | .array items => String.intercalate "," (items.map asText)
  | t => t.asText

end Tree

namespace Template

/-- The text after the braces that close a placeholder here, blanks before them left out. -/
def close? (cs : List Char) : Option (List Char) :=
  Text.dropHead? ['}', '}'] (Text.trimStart cs)

/-- The shortest non-empty text on one line before closing braces, and the text after them. -/
def body? : List Char → Option (List Char × List Char)
  | [] => none
  | c :: r =>
    if c = '\n' then none
    else match close? r with
      | some rest => some ([c], rest)
      | none => (body? r).map fun (body, rest) => (c :: body, rest)

/-- Tries to read a placeholder after `blanks` of its leading blanks, then after fewer. -/
def bodyAfter? (cs : List Char) : Nat → Option (List Char × List Char)
  | 0 => body? cs
  | blanks + 1 => (body? (cs.drop (blanks + 1))).or (bodyAfter? cs blanks)

/-- The rule inside the placeholder at the start of a text, and the text after it. -/
def placeholder? (cs : List Char) : Option (List Char × List Char) := do
  let inner ← Text.dropHead? ['{', '{'] cs
  bodyAfter? inner (inner.takeWhile Text.isBlank).length

/-- A piece of a template. -/
inductive Piece where
  | literal (c : Char)
  | rule (text : String)

/-- The pieces of a template from the left.  Each takes a character at least. -/
def pieces : Nat → List Char → List Piece
  | _, [] => []
  | 0, _ :: _ => []
  | fuel + 1, c :: r =>
    match placeholder? (c :: r) with
    | some (rule, rest) => .rule (String.ofList rule) :: pieces fuel rest
    | none => .literal c :: pieces fuel r

/-- The text of the value of a rule in a document. -/
def fill (root : Tree) (rule : String) : Noted String := do
  let rule ← Rule.parse rule true
  let resolution ← Noted.ofExcept (rule.resolve root)
  return resolution.value.asField

/-- The text of the pieces. -/
def renderPieces (root : Tree) : List Piece → Noted (List Char)
  | [] => pure []
  | .literal c :: rest => do return c :: (← renderPieces root rest)
  | .rule text :: rest => do
    let value ← fill root text
    return value.toList ++ (← renderPieces root rest)

/-- The template with each placeholder replaced by the text of the value that its rule finds in the document. -/
def render (root : Tree) (template : String) : Noted String := do
  let chars := template.toList
  return String.ofList (← renderPieces root (pieces chars.length chars))

end Template

end SiteReader
