import SiteReader.Tree.Basic
import SiteReader.Text.Quoted

/-!
# Writing JSON text

A layout tells the separators, the indentation and whether characters outside ASCII are written as escapes.  The
compact layout is the text that a container becomes when a field is filled with it.
-/

namespace SiteReader.Json

structure Layout where
  itemSeparator : String
  keySeparator : String
  /-- Blanks per level; without one everything stands on one line. -/
  indent? : Option Nat
  asciiOnly : Bool

/-- No blanks at all. -/
def compact : Layout := ⟨",", ":", none, false⟩

/-- One line, a space after each separator. -/
def spaced : Layout := ⟨", ", ": ", none, false⟩

/-- One item or field a line, two blanks a level. -/
def indented : Layout := ⟨",", ": ", some 2, false⟩

/-! ### Strings -/

/-- An escape by four hexadecimal digits. -/
def unicodeEscape (n : Nat) : List Char :=
  '\\' :: 'u' :: Text.hexDigits 4 n

/-- A character inside a string. -/
def stringChar (asciiOnly : Bool) (c : Char) : List Char :=
  if c = '"' then ['\\', '"']
  else if c = '\\' then ['\\', '\\']
  else if c = '\n' then ['\\', 'n']
  else if c = '\r' then ['\\', 'r']
  else if c = '\t' then ['\\', 't']
  else if c = '\x08' then ['\\', 'b']
  else if c = '\x0c' then ['\\', 'f']
  else
    let n := c.toNat
    if n < 32 then unicodeEscape n
    else if asciiOnly && 127 ≤ n then
      if n < 0x10000 then unicodeEscape n
      else
        unicodeEscape (0xD800 + (n - 0x10000) / 1024) ++ unicodeEscape (0xDC00 + (n - 0x10000) % 1024)
    else [c]

/-- A string in its quotes. -/
def printString (asciiOnly : Bool) (cs : List Char) : List Char :=
  '"' :: cs.flatMap (stringChar asciiOnly) ++ ['"']

/-! ### Values -/

/-- The line break before an item at some depth. -/
def lineBreak (layout : Layout) (depth : Nat) : List Char :=
  match layout.indent? with
  | some n => '\n' :: List.replicate (n * depth) ' '
  | none => []

mutual

/-- The text of a value that stands at some depth. -/
def printAt (layout : Layout) (depth : Nat) : Tree → List Char
  | .null => "null".toList
  | .boolean b => if b then "true".toList else "false".toList
  | .integer n => Numeral.ofInt n
  | .double x => x.text Double.jsonStyle
  | .text s => printString layout.asciiOnly s.toList
  | .array [] => "[]".toList
  | .array (t :: rest) =>
    '[' :: lineBreak layout (depth + 1) ++ printAt layout (depth + 1) t ++ printItems layout (depth + 1) rest ++
      lineBreak layout depth ++ [']']
  | .object [] => ['{', '}']
  | .object ((key, t) :: rest) =>
    '{' :: lineBreak layout (depth + 1) ++ printString layout.asciiOnly key.toList ++
      layout.keySeparator.toList ++ printAt layout (depth + 1) t ++ printFields layout (depth + 1) rest ++
      lineBreak layout depth ++ ['}']

/-- The items after the first one, each after a separator. -/
def printItems (layout : Layout) (depth : Nat) : List Tree → List Char
  | [] => []
  | t :: rest =>
    layout.itemSeparator.toList ++ lineBreak layout depth ++ printAt layout depth t ++
      printItems layout depth rest

/-- The fields after the first one, each after a separator. -/
def printFields (layout : Layout) (depth : Nat) : List (String × Tree) → List Char
  | [] => []
  | (key, t) :: rest =>
    layout.itemSeparator.toList ++ lineBreak layout depth ++ printString layout.asciiOnly key.toList ++
      layout.keySeparator.toList ++ printAt layout depth t ++ printFields layout depth rest

end

/-- The text of a value. -/
def print (layout : Layout) (t : Tree) : List Char :=
  printAt layout 0 t

/-- The text of a value as a string. -/
def render (layout : Layout) (t : Tree) : String :=
  String.ofList (print layout t)

end SiteReader.Json
