import SiteReader.Number.Numeral

/-!
# Command lines

A grammar lists options, each with or without a value, and operands.  Options may stand anywhere, may be shortened as
long as they stay clear, and take their values after an equals sign or as the next argument; after `--` there are no
more options.  An operand is taken as soon as its arguments are there.
-/

namespace SiteReader.Command

/-! ### Grammars -/

/-- An option by its name with dashes; one that takes a value tells which values it accepts. -/
structure OptionForm where
  name : String
  value? : Option (String → Bool)

/-- An operand: a single argument, of which some are accepted, all further arguments, or the name of a command with
everything after it. -/
inductive Operand where
  | one (accepts : String → Bool)
  | many
  | command (names : List String)

structure Grammar where
  options : List OptionForm
  operands : List Operand

/-- Why a command line is not run: it cannot be read, or it asks for help. -/
inductive Stop where
  | usage
  | help
deriving DecidableEq, Repr

/-- What a command line gives: the occurrences of its options, those of flags with an empty value; the arguments of each
operand; and the arguments that nothing takes. -/
structure Reading where
  options : List (String × String)
  operands : List (List String)
  extras : List String

/-! ### Words -/

/-- An argument: an option of the grammar or an unknown one, with its value after an equals sign; the mark after which
there are no options; or anything else. -/
inductive Word where
  | option (form? : Option OptionForm) (value? : Option String) (text : String)
  | mark
  | plain (text : String)

namespace Word

def text : Word → String
  | option _ _ text => text
  | mark => "--"
  | plain text => text

def isOption : Word → Bool
  | option _ _ _ => true
  | _ => false

end Word

/-- Whether an argument looks like a negative number. -/
def isNegativeNumber (cs : List Char) : Bool :=
  match cs with
  | '-' :: r =>
    let r := (Text.dropTail? ['\n'] r).getD r
    let whole := r.takeWhile Text.isDecimal
    match r.drop whole.length with
    | [] => !whole.isEmpty
    | '.' :: fraction => !fraction.isEmpty && fraction.all Text.isDecimal
    | _ => false
  | _ => false

/-- The options of a grammar whose names an argument starts. -/
def candidates (grammar : Grammar) (name : List Char) : List OptionForm :=
  match name with
  | '-' :: '-' :: _ => grammar.options.filter fun form => name.isPrefixOf form.name.toList
  | _ => grammar.options.filter fun form => form.name.toList = name.take 2

/-- Reads an argument before the mark. -/
def word (grammar : Grammar) (text : String) : Except Stop Word :=
  let cs := text.toList
  let known? (name : List Char) : Option OptionForm := grammar.options.find? fun form => form.name.toList = name
  let (name, value) := Text.cutAtFirst '=' cs
  let value? := if cs.contains '=' then some (String.ofList value) else none
  if cs.head? ≠ some '-' then .ok (.plain text)
  else match known? cs with
    | some form => .ok (.option (some form) none text)
    | none =>
      if cs.length = 1 then .ok (.plain text)
      else match known? name with
        | some form => .ok (.option (some form) value? text)
        | none => match candidates grammar name with
          | _ :: _ :: _ => .error .usage
          | [form] =>
            if cs.take 2 = ['-', '-'] then .ok (.option (some form) value? text)
            else .ok (.option (some form) (some (String.ofList (cs.drop 2))) text)
          | [] =>
            if isNegativeNumber cs || cs.contains ' ' then .ok (.plain text) else .ok (.option none none text)

/-- Reads arguments. -/
def words (grammar : Grammar) : List String → Except Stop (List Word)
  | [] => .ok []
  | text :: rest =>
    if text = "--" then .ok (.mark :: rest.map Word.plain)
    else do return (← word grammar text) :: (← words grammar rest)

/-! ### Operands -/

/-- Skips the mark. -/
def skipMark : List Word → List Word
  | .mark :: rest => rest
  | rest => rest

/-- Takes the arguments of one operand; `none` if they are not there. -/
def takeOperand? (operand : Operand) (ws : List Word) : Except Stop (Option (List String × List Word)) :=
  match operand with
  | .one accepts => match skipMark ws with
    | .plain text :: rest => if accepts text then .ok (some ([text], skipMark rest)) else .error .usage
    | _ => .ok none
  | .many =>
    let taken := ws.takeWhile fun w => !w.isOption
    let texts := taken.filterMap fun w => match w with
      | .plain text => some text
      | _ => none
    .ok (some (texts, ws.drop taken.length))
  | .command names => match ws with
    | .plain name :: rest => if names.contains name then .ok (some (name :: rest.map Word.text, [])) else .error .usage
    | .mark :: _ :: _ => .error .usage
    | _ => .ok none

/-- Takes the arguments of operands in order as far as they are there. -/
def takeOperands : List Operand → List Word → Except Stop (List (List String) × List Operand × List Word)
  | [], ws => .ok ([], [], ws)
  | operand :: operands, ws => do
    match ← takeOperand? operand ws with
    | none => return ([], operand :: operands, ws)
    | some (texts, rest) => do
      let (others, left, rest) ← takeOperands operands rest
      return (texts :: others, left, rest)

/-! ### The whole line -/

/-- Takes an option with its value; gives the words after it. -/
def takeOption (form : OptionForm) (value? : Option String) (rest : List Word) :
    Except Stop ((String × String) × List Word) :=
  match form.value?, value? with
  | none, none => if form.name = "--help" || form.name = "-h" then .error .help else .ok ((form.name, ""), rest)
  | none, some _ => .error .usage
  | some accepts, some value => if accepts value then .ok ((form.name, value), rest) else .error .usage
  | some accepts, none => match rest with
    | .plain value :: rest => if accepts value then .ok ((form.name, value), rest) else .error .usage
    | _ => .error .usage

/-- Reads words, of which each step takes one at least. -/
def readFrom : Nat → List Operand → List Word → Reading → Except Stop Reading
  | 0, _, _, reading => .ok reading
  | fuel + 1, operands, ws, reading =>
    if !ws.any Word.isOption then do
      let (taken, left, rest) ← takeOperands operands ws
      if !left.isEmpty then throw .usage
      return { reading with operands := reading.operands ++ taken, extras := reading.extras ++ rest.map Word.text }
    else match ws with
      | .option none _ text :: rest => readFrom fuel operands rest { reading with extras := reading.extras ++ [text] }
      | .option (some form) value? _ :: rest => do
        let (found, rest) ← takeOption form value? rest
        readFrom fuel operands rest { reading with options := reading.options ++ [found] }
      | _ => do
        let (taken, left, rest) ← takeOperands operands ws
        let reading := { reading with operands := reading.operands ++ taken }
        if rest.length < ws.length then readFrom fuel left rest reading
        else
          let run := ws.takeWhile fun w => !w.isOption
          readFrom fuel left (ws.drop run.length) { reading with extras := reading.extras ++ run.map Word.text }

/-- Reads a command line. -/
def Grammar.read (grammar : Grammar) (arguments : List String) : Except Stop Reading := do
  let ws ← words grammar arguments
  readFrom (ws.length + 1) grammar.operands ws ⟨[], [], []⟩

end SiteReader.Command
