import SiteReader.Text.Quoted

/-!
# Faults

What can go wrong while a value is read or computed and belongs to no kind of failure that callers are promised: the
caller of an operation meets a fault only where the operation does not turn it into a failure of its own.
-/

namespace SiteReader

inductive Fault where
  /-- An integer with more digits than integers may have. -/
  | endlessNumeral
  /-- A number beyond the range of floating-point numbers, or an infinity where an integer is needed. -/
  | overflow
  /-- The not-a-number where an integer is needed. -/
  | notANumber
  /-- A text that is no URL. -/
  | malformedUrl
  /-- A text that is no address. -/
  | malformedAddress
  /-- A host of numeric labels that is no IPv4 address. -/
  | numericHost (host : String)
  /-- A URL without scheme or host where both are needed. -/
  | relativeUrl (url : String)
  /-- A text that is no JSON. -/
  | malformedJson
  /-- Bytes that are no UTF-8. -/
  | undecodable
  /-- A file of sources that holds neither a list nor an object. -/
  | notSourceList (path : String)
  /-- An operation that the file system refused. -/
  | fileSystem
  /-- Markup that no page can have. -/
  | rejectedMarkup
  /-- A regular expression whose flags exclude each other. -/
  | conflictingFlags
  /-- A selector of a kind that nothing can be selected with. -/
  | unsupportedSelector
deriving DecidableEq, Repr

/-- The text of a fault, where it has one of its own. -/
def Fault.message? : Fault → Option String
  | numericHost host => some ("invalid IPv4 host " ++ quotedForm host)
  | relativeUrl url => some ("not an absolute URL: " ++ quotedForm url)
  | notSourceList path => some (path ++ " must hold a JSON list of book sources")
  | _ => none

end SiteReader
