import SiteReader.Document.Extract
import SiteReader.Gateway.Fetch
import SiteReader.Source.Basic
import SiteReader.Url.Escape

/-!
# Reading sites

A client resolves directives against a source, fetches what they ask for, and extracts fields and lists from the
documents.
-/

namespace SiteReader

/-- The gateway that documents are fetched through, and the evaluator for scripts. -/
structure Client where
  gateway : Gateway
  evaluator? : Option Evaluator

namespace Client

open Gateway (Session)

variable {τ : Type} [Clock τ]

/-! ### Directives of a source -/

/-- Whether a text is a web address in full. -/
def isWebAddress (url : String) : Bool :=
  url.startsWith "http://" || url.startsWith "https://"

/-- The cookie field for a source that is read through a relay, where the directive has none. -/
def cookieFields (client : Client) (source : Source) (headers : Headers) (url : String) : Filed Headers :=
  match client.gateway.store? with
  | some store =>
    if headers.names "cookie" then return []
    else do
      let cookie ← store.cookieFor source.id url
      return if cookie.isEmpty then [] else [("Cookie", cookie)]
  | none => return []

/-- The directive that is sent for a source: its address completed, with the header fields of the source, and through
the relay of the source if it has one. -/
def resolve (client : Client) (source : Source) (directive : Directive) : Session τ Directive := do
  let url ← if !source.url.isEmpty && !isWebAddress directive.url then
      Session.ofFault (Url.join source.url directive.url)
    else pure directive.url
  let directive := (directive.withUrl url).withHeaders (← Session.ofNoted source.defaultHeaders)
  match source.relay? with
  | none => return directive
  | some relay =>
    if relay.isEmpty then return directive
    else
      let cookies ← Session.ofFiled (client.cookieFields source directive.headers url)
      return (directive.withHeaders cookies).withUrl (Url.throughRelay url (some relay))

/-- The directive that is sent for a text. -/
def prepare (client : Client) (source? : Option Source) (raw : String) : Session τ Directive := do
  let directive ← Session.ofNoted (Directive.parse raw)
  match source? with
  | none => return directive
  | some source => client.resolve source directive

/-! ### Documents -/

/-- Fetches a document; also gives the address of its page. -/
def document (client : Client) (source? : Option Source) (raw : String) (timeout? : Option Duration) :
    Session τ (Document × String) := do
  let requested ← Session.ofNoted (Directive.parse raw)
  let directive ← match source? with
    | none => pure requested
    | some source => client.resolve source requested
  let response ← client.gateway.fetch directive timeout? (source?.map (·.id))
  let page ← match source? with
    | some source =>
      if source.url.isEmpty then pure requested.url else Session.ofFault (Url.join source.url requested.url)
    | none => pure requested.url
  return (Document.ofText response.text, page)

/-- The text of a field of a document that is fetched. -/
def field (client : Client) (source? : Option Source) (raw rule : String) (timeout? : Option Duration) :
    Session τ String := do
  let (document, page) ← client.document source? raw timeout?
  Session.ofNoted (document.fieldText client.evaluator? page rule)

/-- The fields of every item of a list in a document that is fetched. -/
def rows (client : Client) (source? : Option Source) (raw listRule : String) (fields : List (String × String))
    (timeout? : Option Duration) : Session τ (List (List (String × String))) := do
  let (document, page) ← client.document source? raw timeout?
  Session.ofNoted (document.rows client.evaluator? page listRule fields)

end Client

end SiteReader
