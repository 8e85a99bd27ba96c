import SiteReader.Charset.Basic
import SiteReader.Failure
import SiteReader.Gateway.Config
import SiteReader.Json.Printer
import SiteReader.Json.Reader

/-!
# Answers

An answer is a status, header fields and bytes.  Its text is decoded by the character set that its content type names,
and as UTF-8 if it names none that is known.
-/

namespace SiteReader

structure Response where
  status : Int
  headers : Headers
  body : ByteArray

namespace Response

/-- Whether the status is one of success. -/
def isOk (response : Response) : Bool :=
  200 ≤ response.status && response.status < 300

/-- A character of the name of a character set. -/
def isCharsetChar (c : Char) : Bool :=
  Text.isWord c || c = '.' || c = ':' || c = '-'

/-- The first name of a character set in a content type, after `charset=` and an opening quote. -/
def charsetName? : List Char → Option (List Char)
  | [] => none
  | c :: r =>
    let name? := do
      let rest ← Text.dropHeadAnyCase? "charset=".toList (c :: r)
      let rest := match rest with
        | '"' :: rest => rest
        | '\'' :: rest => rest
        | rest => rest
      let name := rest.takeWhile isCharsetChar
      if name.isEmpty then none else some name
    name?.or (charsetName? r)

/-- The character set of the body. -/
def charset (response : Response) : Charset :=
  ((charsetName? ((response.headers.value? "content-type").getD "").toList).bind fun name =>
    Charset.ofName? (String.ofList name)).getD .utf8

/-- The decoded body. -/
def text (response : Response) : String :=
  String.ofList (response.charset.decode response.body.toList)

/-- The body as a document, if it is JSON. -/
def json? (response : Response) : Option Tree :=
  Json.parse? response.text

end Response

/-- The answer that reports a failure. -/
def ErrorReport.response (report : ErrorReport) : Response where
  status := report.httpStatus
  headers := updateEntries Gateway.corsHeaders [("Content-Type", "application/json; charset=utf-8")]
  body := (Json.render Json.spaced report.payload).toUTF8

/-- The answer to a request that asks what is allowed. -/
def Gateway.preflight : Response where
  status := 200
  headers := updateEntries Gateway.corsHeaders [("Access-Control-Max-Age", "86400")]
  body := ByteArray.empty

end SiteReader
