import SiteReader.Fault
import SiteReader.Text.Case

/-!
# Tokens of markup

A page is cut into tokens leniently: what looks like markup but is not becomes text.  Markup that is not closed where
the page ends is text as well, and so is what follows a reference that breaks off; the text of a script or style element
that is never closed is lost.
-/

namespace SiteReader.Markup

inductive Token where
  | text (content : List Char)
  /-- A reference by name. -/
  | named (name : List Char)
  /-- A reference by number. -/
  | numbered (base : Nat) (digits : List Char)
  | opening (name : List Char) (attributes : List (List Char × List Char)) (isClosed : Bool)
  | closing (name : List Char)
  | comment (content : List Char)
  | instruction (content : List Char)
  | doctype (content : List Char)
  | marked (content : List Char)
deriving DecidableEq, Repr

namespace Token

/-! ### Start tags -/

/-- Whether a character ends the name of a tag. -/
def endsName (c : Char) : Bool :=
  ['\t', '\n', '\r', '\x0c', ' ', '/', '>', '\x00'].contains c

/-- The name of a tag and the text after it. -/
def tagName? : List Char → Option (List Char × List Char)
  | [] => none
  | c :: r =>
    if Text.isAsciiLetter c then some (c :: r.takeWhile (!endsName ·), r.dropWhile (!endsName ·)) else none

/-- Passes over blanks and slashes, but not over a slash before a `>`.  The character before the text is kept track
of. -/
def skipFill (previous : Char) : List Char → Char × List Char
  | [] => (previous, [])
  | c :: r => if Text.isBlank c || (c = '/' && r.head? ≠ some '>') then skipFill c r else (previous, c :: r)

/-- The value that an equals sign assigns, and the text after it.  A quote that is not closed opens no value. -/
def value? (cs : List Char) : Option (List Char × List Char) :=
  let signs := cs.dropWhile Text.isBlank
  let count := (signs.takeWhile (· = '=')).length
  let blanks := (signs.drop count).takeWhile Text.isBlank
  let body := (signs.drop count).dropWhile Text.isBlank
  let isBare (c : Char) : Bool := !(c = '>' || Text.isBlank c)
  if count = 0 then none
  else match body with
    | [] => some ([], [])
    | quote :: r =>
      if quote = '"' || quote = '\'' then
        if r.contains quote then some (r.takeWhile (· != quote), (r.dropWhile (· != quote)).drop 1)
        else match blanks.getLast? with
          | some blank => some ([], blank :: body)
          | none => if count = 1 then none else some ('=' :: body.takeWhile isBare, body.dropWhile isBare)
      else some (body.takeWhile isBare, body.dropWhile isBare)

/-- Whether an attribute may start after a character. -/
def mayPrecede (c : Char) : Bool :=
  Text.isBlank c || c = '/' || c = '"' || c = '\''

/-- Whether a character may be part of the name of an attribute. -/
def isAttributeChar (c : Char) : Bool :=
  !(Text.isBlank c || c = '/' || c = '=' || c = '>')

/-- The last character of the part of a text that another one leaves over. -/
def lastBefore (cs rest : List Char) (default : Char) : Char :=
  ((cs.take (cs.length - rest.length)).getLast?).getD default

/-- The attributes at the start of a text, and the text after them.  The fuel bounds their number. -/
def attributes : Nat → Char → List Char → List (List Char × List Char) × List Char
  | fuel + 1, previous, c :: r =>
    if !mayPrecede previous || Text.isBlank c || c = '/' || c = '>' then ([], c :: r)
    else
      let name := c :: r.takeWhile isAttributeChar
      let afterName := r.dropWhile isAttributeChar
      let (value, afterValue) := (value? afterName).getD ([], afterName)
      let (previous, rest) := skipFill (lastBefore (c :: r) afterValue c) afterValue
      let (others, rest) := attributes fuel previous rest
      ((Text.lower name, value) :: others, rest)
  | _, _, cs => ([], cs)

/-- What a start of markup turns out to be: tokens with the text after them, markup that the end of the page cuts off,
or markup that no page can have. -/
inductive Piece where
  | tokens (tokens : List Token) (rest : List Char)
  | cutOff
  | rejected

/-- A start tag after its opening bracket. -/
def startTag (cs : List Char) : Piece :=
  match tagName? cs with
  | none => .cutOff
  | some (name, afterName) =>
    let isFill (c : Char) : Bool := Text.isBlank c || c = '/'
    let fill := afterName.takeWhile isFill
    let previous := (fill.getLast?).getD (lastBefore cs afterName '<')
    let (found, rest) := attributes cs.length previous (afterName.dropWhile isFill)
    match rest with
    | '>' :: r => .tokens [.opening (Text.lower name) found (found.isEmpty && fill.getLast? = some '/')] r
    | '/' :: '>' :: r => .tokens [.opening (Text.lower name) found true] r
    | [] => .cutOff
    | c :: _ =>
      if Text.isAsciiLetter c || c = '=' || c = '/' then .cutOff
      else .tokens [.text ('<' :: cs.take (cs.length - rest.length))] rest

/-! ### End tags and other markup -/

def isEndNameChar (c : Char) : Bool :=
  Text.isAsciiAlphanumeric c || ['-', '.', ':', '_'].contains c

/-- The name of a plain end tag after its opening bracket and slash. -/
def endName? (cs : List Char) : Option (List Char) :=
  let body := cs.dropWhile Text.isBlank
  let name := body.takeWhile isEndNameChar
  match name, (body.drop name.length).dropWhile Text.isBlank with
  | c :: _, '>' :: _ => if Text.isAsciiLetter c then some (Text.lower name) else none
  | _, _ => none

/-- An end tag after its opening bracket and slash.  `raw?` is the element whose text is being read as it is. -/
def endTag (raw? : Option (List Char)) (cs : List Char) : Piece :=
  let inside := cs.takeWhile (· != '>')
  let asText : List Token := [.text ('<' :: '/' :: inside ++ ['>'])]
  match cs.dropWhile (· != '>') with
  | [] => .cutOff
  | _ :: rest =>
    match endName? cs, raw? with
    | some name, none => .tokens [.closing name] rest
    | some name, some raw => .tokens (if name = raw then [.closing name] else asText) rest
    | none, some _ => .tokens asText rest
    | none, none => match tagName? cs with
      | some (name, _) => .tokens [.closing (Text.lower name)] rest
      | none => .tokens (if inside.isEmpty then [] else [.comment inside]) rest

/-- The text before the first place where the closers follow each other, with blanks between them, and the text after
that place. -/
def cutAtClosers? (closers : List (List Char)) : List Char → Option (List Char × List Char)
  | [] => none
  | c :: r =>
    match closed? closers (c :: r) with
    | some rest => some ([], rest)
    | none => (cutAtClosers? closers r).map fun (before, after) => (c :: before, after)
where
  /-- The text after the closers, if it starts with them. -/
  closed? : List (List Char) → List Char → Option (List Char)
    | [], cs => some cs
    | [closer], cs => Text.dropHead? closer cs
    | closer :: others, cs => (Text.dropHead? closer cs).bind fun r => closed? others (r.dropWhile Text.isBlank)

/-- Whether a character may be part of the keyword of a section. -/
def isKeywordChar (c : Char) : Bool :=
  Text.isAsciiAlphanumeric c || ['-', '_', '.'].contains c

/-- A marked section after its opening brackets. -/
def markedSection (cs : List Char) : Piece :=
  let keyword := cs.takeWhile isKeywordChar
  let close (closers : List (List Char)) : Piece := match cutAtClosers? closers cs with
    | some (content, rest) => .tokens [.marked content] rest
    | none => .cutOff
  match cs with
  | [] => .cutOff
  | c :: _ =>
    if !Text.isAsciiLetter c then .rejected
    else if ((cs.drop keyword.length).dropWhile Text.isBlank).isEmpty then .cutOff
    else if ["temp", "cdata", "ignore", "include", "rcdata"].contains (String.ofList (Text.lower keyword)) then
      close [[']'], [']'], ['>']]
    else if ["if", "else", "endif"].contains (String.ofList (Text.lower keyword)) then close [[']'], ['>']]
    else .rejected

/-- Markup that ends at the first `>`. -/
def upToBracket (token : List Char → Token) (cs : List Char) : Piece :=
  match cs.dropWhile (· != '>') with
  | [] => .cutOff
  | _ :: rest => .tokens [token (cs.takeWhile (· != '>'))] rest

/-- A declaration after `<!`. -/
def declaration (cs : List Char) : Piece :=
  match cs with
  | '-' :: '-' :: r => match cutAtClosers? [['-', '-'], ['>']] r with
    | some (content, rest) => .tokens [.comment content] rest
    | none => .cutOff
  | '[' :: r => markedSection r
  | _ =>
    if Text.lower (cs.take 7) = "doctype".toList then upToBracket .doctype cs else upToBracket .comment cs

/-- Whatever an opening bracket starts, or nothing if it stands for itself. -/
def bracket? (raw? : Option (List Char)) : List Char → Option Piece
  | [] => some .cutOff
  | '/' :: r => some (endTag raw? r)
  | '?' :: r => some (upToBracket .instruction r)
  | '!' :: r => some (declaration r)
  | c :: r => if Text.isAsciiLetter c then some (startTag (c :: r)) else none

/-! ### The whole page -/

/-- How the reading of a page goes on: with tokens and the text after them; with the rest of the page as its last part,
after some tokens; or not at all. -/
inductive Step where
  | more (tokens : List Token) (rest : List Char)
  | last (tokens : List Token) (rest : List Char)
  | rejected

/-- Text that looks like markup but breaks off. -/
def brokenOff (cs : List Char) : Step :=
  match cs with
  | [] => .last [] []
  | c :: r =>
    let upTo (mark : Char) : List Char := r.takeWhile (· != mark)
    if r.contains '>' then .more [.text (c :: upTo '>' ++ ['>'])] (r.drop ((upTo '>').length + 1))
    else if r.contains '<' then .more [.text (c :: upTo '<')] (r.drop (upTo '<').length)
    else .more [.text [c]] r

/-- Whatever an ampersand starts.  `isFinal` tells whether nothing can be waited for any more. -/
def ampersand (isFinal : Bool) (cs : List Char) : Step :=
  let reference (token : Token) (rest : List Char) : Step :=
    .more [token] (match rest with
      | ';' :: r => r
      | _ => rest)
  match cs with
  | [] => .last [] ['&']
  | '#' :: r =>
    let isHexadecimal := r.head? = some 'x' || r.head? = some 'X'
    let body := if isHexadecimal then r.drop 1 else r
    let isDigit (c : Char) : Bool := if isHexadecimal then (Text.hexValue? c).isSome else Text.isAsciiDigit c
    let digits := body.takeWhile isDigit
    let rest := body.dropWhile isDigit
    if !digits.isEmpty && !rest.isEmpty && !(rest.head?.any fun c => (Text.hexValue? c).isSome) then
      reference (.numbered (if isHexadecimal then 16 else 10) digits) rest
    else if r.contains ';' then .last [.text ['&', '#']] r
    else .last [] ('&' :: cs)
  | c :: r =>
    if !Text.isAsciiLetter c then .more [.text ['&']] cs
    else
      let isNameChar (c : Char) : Bool := Text.isAsciiAlphanumeric c || c = '-' || c = '.'
      let name := c :: r.takeWhile isNameChar
      let rest := r.dropWhile isNameChar
      if !rest.isEmpty then reference (.named name) rest
      else match (name.drop 1).reverse.findIdx? (!Text.isAsciiAlphanumeric ·) with
        | some fromEnd => reference (.named (name.take (name.length - 1 - fromEnd)))
            (name.drop (name.length - 1 - fromEnd))
        | none => if isFinal && r.isEmpty then .last [] cs else .last [] ('&' :: cs)

/-- The text before the end tag of an element whose text is read as it is, and the rest from that tag on. -/
def cutAtRawEnd? (raw : List Char) : List Char → Option (List Char × List Char)
  | [] => none
  | c :: r =>
    if isRawEnd (c :: r) then some ([], c :: r)
    else (cutAtRawEnd? raw r).map fun (before, after) => (c :: before, after)
where
  /-- Whether a text starts with the end tag. -/
  isRawEnd : List Char → Bool
    | '<' :: '/' :: r => match Text.dropHeadAnyCase? raw (r.dropWhile Text.isBlank) with
      | some rest => (rest.dropWhile Text.isBlank).head? = some '>'
      | none => false
    | _ => false

/-- Whatever an opening bracket starts.  Markup that breaks off is waited for at first. -/
def bracket (isFinal : Bool) (raw? : Option (List Char)) (cs : List Char) : Step :=
  match bracket? raw? cs with
  | none => .more [.text ['<']] cs
  | some (.tokens tokens rest) => .more tokens rest
  | some .rejected => .rejected
  | some .cutOff =>
    if cs.isEmpty then .last [] ['<'] else if isFinal then brokenOff ('<' :: cs) else .last [] ('<' :: cs)

/-- The next step in a text. -/
def step (isFinal : Bool) (raw? : Option (List Char)) (cs : List Char) : Step :=
  match raw? with
  | some raw => match cutAtRawEnd? raw cs with
    | none => .last [] cs
    | some ([], rest) => bracket isFinal raw? (rest.drop 1)
    | some (before, rest) => .more [.text before] rest
  | none => match cs with
    | '<' :: r => bracket isFinal none r
    | '&' :: r => ampersand isFinal r
    | _ =>
      let isPlain (c : Char) : Bool := c != '<' && c != '&'
      .more [.text (cs.takeWhile isPlain)] (cs.dropWhile isPlain)

/-- The element whose text is read as it is after some tokens. -/
def rawAfter (raw? : Option (List Char)) : List Token → Option (List Char)
  | [] => raw?
  | .opening name _ false :: rest =>
    rawAfter (if name = "script".toList || name = "style".toList then some name else raw?) rest
  | .closing _ :: rest => rawAfter none rest
  | _ :: rest => rawAfter raw? rest

/-- The tokens of a text after those read so far, the last first.  The fuel bounds the steps: each one shortens the
text, but for the one that finds that the last part has come. -/
def scanFrom : Nat → Bool → Option (List Char) → List Token → List Char → Except Fault (List Token)
  | 0, _, _, found, _ => .ok found.reverse
  | fuel + 1, isFinal, raw?, found, cs =>
    if cs.isEmpty then .ok found.reverse
    else match step isFinal raw? cs with
      | .more tokens rest => scanFrom fuel isFinal (rawAfter raw? tokens) (tokens.reverse ++ found) rest
      | .last tokens rest =>
        if !isFinal then scanFrom fuel true raw? (tokens.reverse ++ found) rest
        else if raw?.isSome then .ok found.reverse
        else .ok (found.reverse ++ tokens ++ if rest.isEmpty then [] else [.text rest])
      | .rejected => .error .rejectedMarkup

/-- The tokens of a page. -/
def scan (cs : List Char) : Except Fault (List Token) :=
  scanFrom (cs.length + 2) false none [] cs

end Token

end SiteReader.Markup
