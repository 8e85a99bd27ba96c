import SiteReader.Path.Basic

/-!
# Reading paths

A path is `$`, with an optional point after it when nothing else follows, or `$` and its segments:

* `.name` and `.*`, where a name has no point, bracket or blank;
* `[*]`, `[digits]`, and a name in single or double quotes between brackets, with blanks around it;
* `..name`;
* `..[?(@.name)]` and `..[?(@.name=literal)]`, with one or two equality signs and a literal that is quoted or a bare
  decimal, and blanks between the parts.
-/

namespace SiteReader.Path

/-! ### Parts of segments -/

/-- A character of a bare name. -/
def isNameChar (c : Char) : Bool :=
  !(c = '.' || c = '[' || c = ']' || Text.isBlank c)

/-- A character of a field name inside a filter. -/
def isFilterNameChar (c : Char) : Bool :=
  !(c = '=' || c = ')' || Text.isBlank c)

/-- Splits off the longest non-empty text of characters that satisfy `p`. -/
def run? (p : Char → Bool) (cs : List Char) : Option (List Char × List Char) :=
  match cs.takeWhile p with
  | [] => none
  | found => some (found, cs.dropWhile p)

/-- Splits off a text in single or double quotes. -/
def quoted? : List Char → Option (List Char × List Char)
  | q :: r =>
    if q = '\'' || q = '"' then
      match r.dropWhile (· != q) with
      | _ :: rest => some (r.takeWhile (· != q), rest)
      | [] => none
    else none
  | [] => none

/-- Splits off a bare decimal: a sign, digits, and a fraction. -/
def bareDecimal? (cs : List Char) : Option (List Char × List Char) := do
  let (sign, body) := match cs with
    | '-' :: r => (['-'], r)
    | _ => ([], cs)
  let (whole, rest) ← run? Text.isDecimal body
  match rest with
  | '.' :: r => match run? Text.isDecimal r with
    | some (places, rest) => return (sign ++ whole ++ '.' :: places, rest)
    | none => return (sign ++ whole, rest)
  | _ => return (sign ++ whole, rest)

/-- Splits off the comparison of a filter, from its equality sign on. -/
def comparison? : List Char → Option (List Char × List Char)
  | '=' :: r =>
    let body := Text.trimStart (match r with | '=' :: r' => r' | _ => r)
    (quoted? body).or (bareDecimal? body)
  | _ => none

/-- Splits off the end of a filter. -/
def filterEnd? (cs : List Char) : Option (List Char) :=
  Text.dropHead? [')', ']'] (Text.trimStart cs)

/-- Splits off a filter in its brackets: the name, the literal if there is one, and the text after it. -/
def filter? (cs : List Char) : Option ((List Char × Option (List Char)) × List Char) := do
  let r ← Text.dropHead? ['[', '?', '('] cs
  let r ← Text.dropHead? ['@', '.'] (Text.trimStart r)
  let (name, r) ← run? isFilterNameChar r
  let body := Text.trimStart r
  match comparison? body with
  | some (literal, rest) => return ((name, some literal), ← filterEnd? rest)
  | none => return ((name, none), ← filterEnd? body)

/-- Splits off an index in its brackets, as its digits. -/
def index? : List Char → Option (List Char × List Char)
  | '[' :: r => do
    let (digits, rest) ← run? Text.isDecimal r
    match rest with
    | ']' :: rest => return (digits, rest)
    | _ => none
  | _ => none

/-- Splits off a quoted name in its brackets. -/
def bracketName? : List Char → Option (List Char × List Char)
  | '[' :: r => do
    let (name, rest) ← quoted? (Text.trimStart r)
    match Text.trimStart rest with
    | ']' :: rest => return (name, rest)
    | _ => none
  | _ => none

/-! ### Segments -/

/-- Reads what follows two points. -/
def readSearch (source : String) (cs : List Char) : Except Defect (Segment × List Char) :=
  match filter? cs with
  | some ((name, literal?), rest) => .ok (.filter (String.ofList name) (literal?.map String.ofList), rest)
  | none => match run? isNameChar cs with
    | some (name, rest) => .ok (.search (String.ofList name), rest)
    | none => .error (.badSearch source)

/-- Reads what follows one point. -/
def readDotted (source : String) (cs : List Char) : Except Defect (Segment × List Char) :=
  match cs with
  | '*' :: rest => .ok (.wildcard, rest)
  | _ => match run? isNameChar cs with
    | some (name, rest) => .ok (.field (String.ofList name), rest)
    | none => .error (.noName source)

/-- Reads a segment in brackets, from its opening bracket on. -/
def readBracket (source : String) (cs : List Char) : Except Defect (Segment × List Char) :=
  match Text.dropHead? ['[', '*', ']'] cs with
  | some rest => .ok (.wildcard, rest)
  | none => match index? cs with
    | some (digits, rest) => match Numeral.bounded? digits with
      | some position => .ok (.item position, rest)
      | none => .error .endlessIndex
    | none => match bracketName? cs with
      | some (name, rest) => .ok (.field (String.ofList name), rest)
      | none => .error (.badBracket source)

/-- Reads the segment at the start of a text. -/
def readSegment (source : String) : List Char → Except Defect (Segment × List Char)
  | '.' :: '.' :: r => readSearch source r
  | '.' :: r => readDotted source r
  | '[' :: r => readBracket source ('[' :: r)
  | c :: _ => .error (.unexpected c source)
  | [] => .error (.noName source)

/-- Reads segments up to the end of the text.  A segment takes a character at least, so that the length of the text
bounds their number. -/
def readSegments (source : String) : Nat → List Char → Except Defect (List Segment)
  | _, [] => .ok []
  | 0, _ :: _ => .error (.noName source)
  | fuel + 1, c :: r => do
    let (segment, rest) ← readSegment source (c :: r)
    return segment :: (← readSegments source fuel rest)

/-- Reads a path; blanks around it are dropped. -/
def parse (text : String) : Except Defect Path :=
  let source := trimmed text
  match Text.trim text.toList with
  | '$' :: rest => do
    let rest := if rest = ['.'] then [] else rest
    return ⟨source, ← readSegments source rest.length rest⟩
  | _ => .error (.noRoot text)

end SiteReader.Path
