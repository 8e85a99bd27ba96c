import SiteReader.Url.Basic

/-!
# Origins

The keys under which cookies for a URL are looked up: its origin, its host and port, its host.  A port that is the
default of the scheme counts as none.
-/

namespace SiteReader.Url

def defaultPort? (scheme : List Char) : Option Nat :=
  if scheme = "http".toList then some 80
  else if scheme = "https".toList then some 443
  else none

/-- Host and port as they stand in an origin, the host in brackets if it has colons. -/
def hostWithPort (scheme host : List Char) (port? : Option Nat) : List Char :=
  let host := if host.contains ':' then '[' :: host ++ [']'] else host
  match port? with
  | none => host
  | some port => if some port = defaultPort? scheme then host else host ++ ':' :: Nat.toDigits 10 port

/-- Origin, host and port, and host of a URL. -/
def originKeysChars (text : List Char) : Except Fault (List (List Char)) := do
  let url ← split text
  if url.scheme.isEmpty || url.host.isEmpty then
    throw (.relativeUrl (String.ofList text))
  let port? ← url.port
  let hostPort := hostWithPort url.scheme url.host port?
  return [url.scheme ++ "://".toList ++ hostPort, hostPort, url.host]

/-- Origin, host and port, and host of a URL. -/
def originKeys (text : String) : Except Fault (List String) :=
  (originKeysChars text.toList).map (·.map String.ofList)

end SiteReader.Url
