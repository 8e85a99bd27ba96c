import SiteReader.Command.Line
import SiteReader.Entry
import SiteReader.Gateway.Config
import SiteReader.Text.Quoted

/-!
# Commands

What a command line asks for: to fetch a directive and extract from it, to read or to set the cookies of a source, or to
test a URL.
-/

namespace SiteReader.Command

/-! ### What is asked for -/

structure FetchOptions where
  directive : String
  rule? : Option String
  listRule? : Option String
  fields : List (String × String)
  sourcesFile? : Option String
  sourceId? : Option String
  /-- In milliseconds. -/
  timeout : Int
  /-- Whether finding nothing is a failure. -/
  require : Bool
deriving DecidableEq, Repr

inductive CookieAction where
  | get
  | set (cookies tokens : List (String × String))
deriving DecidableEq, Repr

inductive Task where
  | fetch (options : FetchOptions)
  | cookie (action : CookieAction) (sourceId : String) (url? : Option String)
  | check (url : String)
deriving DecidableEq, Repr

structure Options where
  task : Task
  authFile? : Option String
  quiet : Bool
  verbose : Bool
deriving DecidableEq, Repr

/-- What is wrong with a command line that the grammar accepts. -/
inductive Mistake where
  | quietAndVerbose
  | fieldWithoutList
  | ruleAndList
  | requireWithoutRule
  | notPair (label value : String)
  | timeoutVariable (value : String)
  | timeoutNotPositive
  | sourcesWithoutId
  | nothingToSet
  | entriesToGet
deriving DecidableEq, Repr

/-- The environment variable for the timeout. -/
def timeoutVariable : String := "BOOKSOURCE_TIMEOUT_MS"

def Mistake.message : Mistake → String
  | quietAndVerbose => "--quiet and --verbose cannot be combined."
  | fieldWithoutList => "--field requires --list-rule."
  | ruleAndList => "--rule and --list-rule cannot be combined."
  | requireWithoutRule => "--require needs --rule or --list-rule."
  | notPair label value => label ++ " expects NAME=VALUE, got " ++ quotedForm value ++ "."
  | timeoutVariable value => "$" ++ Command.timeoutVariable ++ " must be an integer, got " ++ quotedForm value ++ "."
  | timeoutNotPositive => "timeout must be a positive number of milliseconds."
  | sourcesWithoutId => "--sources requires --source-id."
  | nothingToSet => "cookie set needs at least one ORIGIN=COOKIE or --token."
  | entriesToGet => "cookie get takes no entries."

/-- Why there is nothing to run. -/
inductive Refused where
  | stop (stop : Stop)
  | mistake (mistake : Mistake)
deriving DecidableEq, Repr

/-! ### Grammars -/

def flag (name : String) : OptionForm := ⟨name, none⟩

def text (name : String) : OptionForm := ⟨name, some fun _ => true⟩

def helpForms : List OptionForm := [flag "-h", flag "--help"]

def mainGrammar : Grammar where
  options := helpForms ++ [text "--auth-file", flag "--quiet", flag "--verbose"]
  operands := [.command ["fetch", "cookie", "check"]]

def fetchGrammar : Grammar where
  options := helpForms ++ [text "--rule", text "--list-rule", text "--field", text "--sources", text "--source-id",
    flag "--require", ⟨"--timeout", some fun value => (Numeral.integer? value.toList).isSome⟩]
  operands := [.one fun _ => true]

def cookieGrammar : Grammar where
  options := helpForms ++ [text "--token", text "--url"]
  operands := [.one fun action => action = "get" || action = "set", .one fun _ => true, .many]

def checkGrammar : Grammar where
  options := helpForms
  operands := [.one fun _ => true]

/-! ### Values -/

namespace Reading

/-- The last value of an option. -/
def value? (reading : Reading) (name : String) : Option String :=
  reading.options.reverse.lookup name

/-- All values of an option. -/
def values (reading : Reading) (name : String) : List String :=
  (reading.options.filter (·.1 = name)).map (·.2)

def has (reading : Reading) (name : String) : Bool :=
  (reading.value? name).isSome

/-- The first argument of an operand. -/
def argument (reading : Reading) (position : Nat) : String :=
  ((reading.operands.getD position []).head?).getD ""

end Reading

/-- Whether an option is given with a text that is not empty. -/
def isGiven (value? : Option String) : Bool :=
  value?.any fun value => !value.isEmpty

/-- Reads texts of a name and a value with an equals sign between them. -/
def pairs (label : String) (values : List String) : Except Refused (List (String × String)) := do
  let read (value : String) : Except Refused (String × String) :=
    let (name, rest) := Text.cutAtFirst '=' value.toList
    if !value.toList.contains '=' || (Text.trim name).isEmpty then .error (.mistake (.notPair label value))
    else .ok (String.ofList (Text.trim name), String.ofList rest)
  return distinctEntries (← values.mapM read)

/-- The timeout: that of the option, else that of the environment, else the default. -/
def timeout (environment : List (String × String)) (option? : Option String) : Except Refused Int := do
  let positive (n : Int) : Except Refused Int := if n ≤ 0 then .error (.mistake .timeoutNotPositive) else .ok n
  match option?.bind fun value => Numeral.integer? value.toList with
  | some n => positive n
  | none => match environment.lookup timeoutVariable with
    | none => return Gateway.Config.usualTimeout
    | some configured =>
      if configured.isEmpty then return Gateway.Config.usualTimeout
      else match Numeral.integer? configured.toList with
        | some n => positive n
        | none => throw (.mistake (.timeoutVariable configured))

/-! ### Reading command lines -/

def fetchTask (environment : List (String × String)) (reading : Reading) : Except Refused Task := do
  let rule? := reading.value? "--rule"
  let listRule? := reading.value? "--list-rule"
  let sourcesFile? := reading.value? "--sources"
  let sourceId? := reading.value? "--source-id"
  let require := reading.has "--require"
  if reading.has "--field" && !isGiven listRule? then throw (.mistake .fieldWithoutList)
  if isGiven rule? && isGiven listRule? then throw (.mistake .ruleAndList)
  if require && !isGiven rule? && !isGiven listRule? then throw (.mistake .requireWithoutRule)
  let fields ← pairs "--field" (reading.values "--field")
  let timeout ← timeout environment (reading.value? "--timeout")
  if isGiven sourcesFile? && !isGiven sourceId? then throw (.mistake .sourcesWithoutId)
  return .fetch ⟨reading.argument 0, rule?, listRule?, fields, sourcesFile?, sourceId?, timeout, require⟩

def cookieTask (reading : Reading) : Except Refused Task := do
  let entries := reading.operands.getD 2 []
  let tokens := reading.values "--token"
  let action ←
    if reading.argument 0 = "set" then
      if entries.isEmpty && tokens.isEmpty then throw (.mistake .nothingToSet)
      pure (CookieAction.set (← pairs "ORIGIN=COOKIE" entries) (← pairs "--token" tokens))
    else
      if !entries.isEmpty || !tokens.isEmpty then throw (.mistake .entriesToGet)
      pure CookieAction.get
  return .cookie action (reading.argument 1) (reading.value? "--url")

def checkTask (reading : Reading) : Task :=
  .check (reading.argument 0)

/-- Reads a command line. -/
def Options.parse (environment : List (String × String)) (arguments : List String) : Except Refused Options := do
  let main ← (mainGrammar.read arguments).mapError .stop
  let (name, rest) := match main.operands with
    | (name :: rest) :: _ => (name, rest)
    | _ => ("", [])
  let grammar := if name = "fetch" then fetchGrammar else if name = "cookie" then cookieGrammar else checkGrammar
  let reading ← (grammar.read rest).mapError .stop
  if !main.extras.isEmpty || !reading.extras.isEmpty then throw (.stop .usage)
  if main.has "--quiet" && main.has "--verbose" then throw (.mistake .quietAndVerbose)
  let task ←
    if name = "fetch" then fetchTask environment reading
    else if name = "cookie" then cookieTask reading
    else pure (checkTask reading)
  return ⟨task, main.value? "--auth-file", main.has "--quiet", main.has "--verbose"⟩

end SiteReader.Command
