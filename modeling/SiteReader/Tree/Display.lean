import SiteReader.Tree.Basic
import SiteReader.Text.Quoted

/-!
# Trees inside messages

The form in which a value is shown to people: `None`, `True`, numbers, quoted texts, and containers with a blank
after each separator.  A text on its own is shown as it is.
-/

namespace SiteReader.Tree

mutual

/-- A value with its texts in quotes. -/
def display : Tree → List Char
  | null => "None".toList
  | boolean b => if b then "True".toList else "False".toList
  | integer n => Numeral.ofInt n
  | double x => x.text Double.plainStyle
  | text s => Text.quoted s.toList
  | array [] => "[]".toList
  | array (t :: rest) => '[' :: display t ++ displayItems rest ++ [']']
  | object [] => ['{', '}']
  | object ((key, t) :: rest) =>
    '{' :: Text.quoted key.toList ++ ':' :: ' ' :: display t ++ displayFields rest ++ ['}']

def displayItems : List Tree → List Char
  | [] => []
  | t :: rest => ',' :: ' ' :: display t ++ displayItems rest

def displayFields : List (String × Tree) → List Char
  | [] => []
  | (key, t) :: rest => ',' :: ' ' :: Text.quoted key.toList ++ ':' :: ' ' :: display t ++ displayFields rest

end

/-- A value as a text: a text is itself, everything else is displayed. -/
def plainText : Tree → String
  | text s => s
  | t => String.ofList (display t)

/-- A value inside a message, texts in quotes. -/
def quotedText (t : Tree) : String :=
  String.ofList (display t)

end SiteReader.Tree
