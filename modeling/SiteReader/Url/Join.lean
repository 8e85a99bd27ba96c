import SiteReader.Url.Basic

/-!
# Joining URLs

A reference is resolved against a base URL: it takes from the base what it lacks at its front, and the segments `.` and
`..` of its path are worked off.
-/

namespace SiteReader.Url

/-! ### Schemes -/

/-- Schemes whose URLs may be relative. -/
def relativeSchemes : List String := [
  "", "ftp", "http", "gopher", "nntp", "imap", "wais", "file", "https", "shttp", "mms", "prospero", "rtsp", "rtsps",
  "rtspu", "sftp", "svn", "svn+ssh", "ws", "wss"]

/-- Schemes whose URLs have an authority. -/
def authoritySchemes : List String := [
  "", "ftp", "http", "gopher", "nntp", "telnet", "imap", "wais", "file", "mms", "https", "shttp", "snews", "prospero",
  "rtsp", "rtsps", "rtspu", "rsync", "svn", "svn+ssh", "sftp", "nfs", "git", "git+ssh", "ws", "wss"]

/-- Schemes whose URLs may have parameters after a semicolon in the last segment of the path. -/
def parameterSchemes : List String := [
  "", "ftp", "hdl", "prospero", "http", "imap", "https", "shttp", "rtsp", "rtsps", "rtspu", "sip", "sips", "mms",
  "sftp", "tel"]

def isAmong (scheme : List Char) (schemes : List String) : Bool :=
  schemes.contains (String.ofList scheme)

/-! ### Parameters -/

/-- Splits off the parameters of the last segment of a path. -/
def cutParameters (scheme path : List Char) : List Char × List Char :=
  if isAmong scheme parameterSchemes then
    match Text.cutAtLast? '/' path with
    | some (before, last) =>
      let (segment, parameters) := Text.cutAtFirst ';' last
      if last.contains ';' then (before ++ '/' :: segment, parameters) else (path, [])
    | none => Text.cutAtFirst ';' path
  else (path, [])

/-! ### Putting a URL together -/

/-- The text of a URL, whose path may have parameters. -/
def unsplit (url : Url) (parameters : List Char) : List Char :=
  let path := if parameters.isEmpty then url.path else url.path ++ ';' :: parameters
  let path :=
    if !url.authority.isEmpty ||
        (!url.scheme.isEmpty && isAmong url.scheme authoritySchemes && path.take 2 != ['/', '/']) then
      '/' :: '/' :: url.authority ++ (if path.isEmpty || path.head? = some '/' then path else '/' :: path)
    else path
  let text := if url.scheme.isEmpty then path else url.scheme ++ ':' :: path
  let text := if url.query.isEmpty then text else text ++ '?' :: url.query
  if url.fragment.isEmpty then text else text ++ '#' :: url.fragment

/-! ### Paths -/

/-- Works off the segments of a path; `done` holds the segments kept so far, the last one first. -/
def resolveSegments (done : List (List Char)) : List (List Char) → List (List Char)
  | [] => done.reverse
  | segment :: rest =>
    if segment = ['.', '.'] then resolveSegments done.tail rest
    else if segment = ['.'] then resolveSegments done rest
    else resolveSegments (segment :: done) rest

/-- The segments without the empty ones between the first and the last. -/
def dropEmptyInner : List (List Char) → List (List Char)
  | [] => []
  | [a] => [a]
  | a :: rest => a :: (rest.dropLast.filter (!·.isEmpty) ++ rest.getLast?.toList)

/-- The path of a reference resolved against the path of the base. -/
def resolvePath (base path : List Char) : List Char :=
  let own := Text.splitOn ['/'] path
  let segments :=
    if path.head? = some '/' then own
    else
      let parts := Text.splitOn ['/'] base
      let folder := if parts.getLast? = some [] then parts else parts.dropLast
      dropEmptyInner (folder ++ own)
  let resolved := resolveSegments [] segments
  let resolved :=
    if segments.getLast? = some ['.'] || segments.getLast? = some ['.', '.'] then resolved ++ [[]] else resolved
  match Text.join ['/'] resolved with
  | [] => ['/']
  | text => text

/-! ### Joining -/

/-- The reference resolved against the base. -/
def joinChars (base reference : List Char) : Except Fault (List Char) :=
  if base.isEmpty then .ok reference
  else if reference.isEmpty then .ok base
  else do
    let b ← split base
    let r ← splitWith b.scheme reference
    let (basePath, baseParameters) := cutParameters b.scheme b.path
    let (path, parameters) := cutParameters r.scheme r.path
    if r.scheme ≠ b.scheme || !isAmong r.scheme relativeSchemes then return reference
    else if isAmong r.scheme authoritySchemes && !r.authority.isEmpty then
      return unsplit { r with path } parameters
    else
      let authority := if isAmong r.scheme authoritySchemes then b.authority else r.authority
      if path.isEmpty && parameters.isEmpty then
        let query := if r.query.isEmpty then b.query else r.query
        return unsplit { r with authority, path := basePath, query } baseParameters
      else return unsplit { r with authority, path := resolvePath basePath path } parameters

/-- The reference resolved against the base. -/
def join (base reference : String) : Except Fault String :=
  (joinChars base.toList reference.toList).map String.ofList

end SiteReader.Url
