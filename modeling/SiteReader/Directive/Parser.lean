import SiteReader.Directive.Basic
import SiteReader.Directive.Relaxed
import SiteReader.Json.Printer
import SiteReader.Json.Reader
import SiteReader.Notes
import SiteReader.Tree.Display

/-!
# Reading directives

A directive is a URL, or a URL and an object of options after a comma: method, headers and body.  The options are read
as JSON and, failing that, in the relaxed dialect; when neither works the whole text is taken for a URL.
-/

namespace SiteReader.Directive

/-- The options at the end of a text, if what follows the comma is a text in braces. -/
def options? (tail : List Char) : Option (List Char) :=
  let tail := Text.trim tail
  if tail.head? = some '{' && tail.getLast? = some '}' then some tail else none

/-- Splits at the first comma that options follow.  The text before it comes untrimmed. -/
def cutOptions? : List Char → Option (List Char × List Char)
  | [] => none
  | c :: r =>
    match if c = ',' then options? r else none with
    | some options => some ([], options)
    | none => (cutOptions? r).map fun (before, options) => (c :: before, options)

/-- The URL and the options of a directive; without options the URL is the text as it is. -/
def split (raw : String) : String × Option String :=
  match cutOptions? raw.toList with
  | some (url, options) => (String.ofList (Text.trim url), some (String.ofList options))
  | none => (raw, none)

/-- Reads an object. -/
def object? (s : String) : Option (List (String × Tree)) :=
  match Json.parse? s with
  | some (.object fields) => some fields
  | _ => none

/-- Reads an object in JSON or in the relaxed dialect. -/
def lenientObject? (s : String) : Option (List (String × Tree)) :=
  (object? s).or (object? (Relaxed.normalize s))

/-- The value of a header: texts as they are, anything else as JSON text. -/
def headerText : Tree → String
  | .text s => s
  | t => Json.render Json.spaced t

/-- The directive that options describe. -/
def ofOptions (url : String) (options : List (String × Tree)) : Directive where
  url := url
  method := match Tree.field? "method" options with
    | some method => if method.isTruthy then uppered method.plainText else "GET"
    | none => "GET"
  headers := match Tree.field? "headers" options with
    | some (.object headers) => headers.map fun (key, value) => (key, headerText value)
    | _ => []
  body? := match Tree.field? "body" options with
    | none => none
    | some .null => none
    | some (.text s) => some s
    | some t => some (Json.render Json.compact t)

/-- Reads a directive. -/
def parse (raw : String) : Noted Directive :=
  match split raw with
  | (_, none) => pure (get raw)
  | (url, some text) => match lenientObject? text with
    | some options => pure (ofOptions url options)
    | none => do
      warn (.unreadableOptions text)
      return get raw

/-- Reads a directive out of a document, where anything but a text asks for the empty URL. -/
def ofTree : Tree → Noted Directive
  | .text s => parse s
  | _ => pure (get "")

end SiteReader.Directive
