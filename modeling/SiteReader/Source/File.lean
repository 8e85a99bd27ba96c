import SiteReader.File.System
import SiteReader.Json.Reader
import SiteReader.Source.Basic

/-!
# Files of sources

A file of sources is a JSON list of them, or a single one.
-/

namespace SiteReader.Source

/-- Reads the sources of a file. -/
def load (fs : FileSystem) (path : FilePath) : Except Fault (List Source) :=
  match fs.openFile path with
  | .content bytes => match String.fromUTF8? bytes with
    | none => .error .undecodable
    | some text => match Json.parse? text with
      | none => .error .malformedJson
      | some document => match ofDocument? document with
        | some sources => .ok sources
        | none => .error (.notSourceList path.text)
  | _ => .error .fileSystem

end SiteReader.Source
