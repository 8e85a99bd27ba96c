import SiteReader.Client
import SiteReader.Command.Options
import SiteReader.Source.File

/-!
# Running commands

A command ends with an output, which is a text or a value, and an exit code.  A failure of some kind is an output too;
a fault ends the command without one.  What the user is told as the work goes on comes before the warnings.
-/

namespace SiteReader.Command

open Gateway (Resolver Session World)

variable {τ : Type} [Clock τ]

/-! ### Outputs -/

inductive Output where
  | text (text : String)
  | value (value : Tree)

/-- An output as it is printed. -/
def Output.print : Output → String
  | .text s => s ++ "\n"
  | .value root => Json.render Json.indented root ++ "\n"

/-- How a command ends: not run at all, broken off by a fault, or with an exit code, a text, and lines for the user. -/
inductive Ending where
  | refused (reason : Refused)
  | broken (failure : Failure)
  | done (exitCode : Nat) (output : String) (lines : List String)

/-! ### Tasks -/

/-- The source that a fetch names, out of its file of sources if there is one. -/
def sourceOf (options : FetchOptions) : Session τ (Option Source) := do
  let id := options.sourceId?.getD ""
  let path := options.sourcesFile?.getD ""
  if id.isEmpty then return none
  if path.isEmpty then return some (Source.bare id)
  match Source.load (← get).files (FilePath.ofText path) with
  | .error fault =>
    let reason := match fault with
      | .fileSystem => "<os error>"
      | fault => fault.message?.getD "<json error>"
    throw (.invalidRequest (.unreadableSources path reason))
  | .ok sources => match Source.find? sources id with
    | none => throw (.invalidRequest (.unknownSource id path))
    | some source => if source.enabled then return some source else throw (.invalidRequest (.disabledSource source.name))

def rowTree (row : List (String × String)) : Tree :=
  .object (row.map fun (key, value) => (key, .text value))

/-- Fetches a document and extracts a list, a field, or nothing from it. -/
def runFetch (client : Client) (options : FetchOptions) : Session τ Output := do
  let source? ← sourceOf options
  let timeout? := some (Duration.whole options.timeout)
  Session.tell ("Fetch: " ++ options.directive)
  let listRule := options.listRule?.getD ""
  let rule := options.rule?.getD ""
  if !listRule.isEmpty then
    let rows ← client.rows source? options.directive listRule options.fields timeout?
    Session.tell ("Fetch: extracted " ++ toString rows.length ++ " item(s)")
    if options.require && rows.isEmpty then throw (.noMatch (.list listRule))
    return .value (.array (rows.map rowTree))
  else if !rule.isEmpty then
    let text ← client.field source? options.directive rule timeout?
    if options.require && text.isEmpty then throw (.noMatch (.field rule))
    return .text text
  else
    match (← client.document source? options.directive timeout?).1 with
    | .tree root => return .value root
    | .page text => return .text text

/-- Reads the cookie of a source for a URL, or its whole record. -/
def runCookieGet (store : CredentialStore) (sourceId : String) (url? : Option String) : Session τ Output := do
  if isGiven url? then
    let cookie ← Session.ofFiled (store.cookieFor sourceId (url?.getD ""))
    return .value (.object [("sourceId", .text sourceId), ("cookie", .text cookie)])
  else match ← Session.ofFiled (store.find? sourceId) with
    | some record => return .value record.toTree
    | none => return .value .null

/-- Adds cookies and tokens to the record of a source. -/
def runCookieSet (store : CredentialStore) (sourceId : String) (cookies tokens : List (String × String)) :
    Session τ Output := do
  let record := (← Session.ofFiled (store.find? sourceId)).getD ⟨sourceId, [], []⟩
  let record := { record with
    cookies := updateEntries record.cookies cookies, tokens := updateEntries record.tokens tokens }
  Session.ofFiled (store.upsert record)
  Session.tell ("Cookies: stored " ++ toString record.cookies.length ++ " entries for " ++ sourceId)
  return .value record.toTree

/-- Runs a task with the credentials of a store. -/
def runTask (resolver : Resolver) (store : CredentialStore) (task : Task) : Session τ Output := do
  let gateway : Gateway := ⟨.standard, resolver, some store⟩
  match task with
  | .fetch options => runFetch ⟨gateway, none⟩ options
  | .cookie .get sourceId url? => runCookieGet store sourceId url?
  | .cookie (.set cookies tokens) sourceId _ => runCookieSet store sourceId cookies tokens
  | .check url => do
    let safe ← Session.ofExcept (Gateway.isUrlSafe gateway.config resolver url)
    return .value (.object [("url", .text url), ("allowed", .boolean safe)])

/-! ### Command lines -/

/-- Runs a command line. -/
def run (environment : List (String × String)) (resolver : Resolver) (arguments : List String) :
    StateM (World τ) Ending := do
  match Options.parse environment arguments with
  | .error reason => return .refused reason
  | .ok options => do
    modify fun world => { world with notes := Notes.empty, progress := [] }
    let home := (← get).files.home
    let path := (options.authFile?.map FilePath.ofText).getD (CredentialStore.usualPath environment home)
    let result ← (runTask resolver ⟨path⟩ options.task).run
    let world ← get
    let told := world.progress ++ world.notes.warnings.map fun warning => "Warning: " ++ warning.message
    let lines := if options.quiet then [] else told
    match result with
    | .ok output => return .done 0 output.print lines
    | .error failure => match failure.kind? with
      | some _ => return .done 1 (Output.value failure.report.payload).print lines
      | none => return .broken failure

end SiteReader.Command
