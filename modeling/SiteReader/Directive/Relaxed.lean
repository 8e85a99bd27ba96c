import SiteReader.Text.Class

/-!
# The relaxed dialect of object literals

Object literals written by hand have strings in single quotes and keys without quotes.  `strict` rewrites such a
literal into JSON text: strings get double quotes, their contents staying as they are, and a bare word after `{` or
`,` gets quotes when a colon follows it.
-/

namespace SiteReader.Relaxed

/-- A character that a bare key may start with. -/
def isKeyStart (c : Char) : Bool :=
  Text.isAlphanumeric c || c = '_' || c = '$'

/-- A character inside a bare key. -/
def isKeyChar (c : Char) : Bool :=
  isKeyStart c || c = '-'

/-- A character of a string in single quotes, as it is written in double quotes. -/
def requote (quote c : Char) : List Char :=
  if quote = '\'' && c = '"' then ['\\', '"'] else [c]

/-- An escape of a string in `quote`, as it is written in double quotes. -/
def requoteEscape (quote c : Char) : List Char :=
  if quote = '\'' && c = '\'' then ['\''] else ['\\', c]

/-- Rewrites the rest of a string after its opening quote, up to its closing quote or the end of the text.  Returns the
new text without quotes and what follows the string. -/
def string (quote : Char) : List Char → List Char × List Char
  | [] => ([], [])
  | [c] => if c = quote then ([], []) else (requote quote c, [])
  | c :: d :: r =>
    if c = '\\' then
      let (body, rest) := string quote r
      (requoteEscape quote d ++ body, rest)
    else if c = quote then ([], d :: r)
    else
      let (body, rest) := string quote (d :: r)
      (requote quote c ++ body, rest)

/-- The bare key at the start of a text and what follows it, when a colon comes next. -/
def bareKey? (cs : List Char) : Option (List Char × List Char) :=
  match cs with
  | [] => none
  | c :: _ =>
    if isKeyStart c then
      let rest := cs.dropWhile isKeyChar
      match Text.trimStart rest with
      | ':' :: _ => some (cs.takeWhile isKeyChar, rest)
      | _ => none
    else none

/-- Rewrites a literal; `expectKey` tells whether a bare key may come next.  Each step takes a character at least. -/
def strictFrom : Nat → Bool → List Char → List Char
  | _, _, [] => []
  | 0, _, _ :: _ => []
  | fuel + 1, expectKey, c :: r =>
    if c = '\'' || c = '"' then
      let (body, rest) := string c r
      '"' :: body ++ '"' :: strictFrom fuel false rest
    else if c = '{' || c = ',' then c :: strictFrom fuel true r
    else if Text.isBlank c then c :: strictFrom fuel expectKey r
    else match if expectKey then bareKey? (c :: r) else none with
      | some (key, rest) => '"' :: key ++ '"' :: strictFrom fuel false rest
      | none => c :: strictFrom fuel false r

/-- Rewrites a relaxed literal into JSON text. -/
def strict (cs : List Char) : List Char :=
  strictFrom cs.length false cs

/-- Rewrites a relaxed literal into JSON text. -/
def normalize (s : String) : String :=
  String.ofList (strict s.toList)

end SiteReader.Relaxed
