import SiteReader.Text.Basic

/-!
# Files

A small file system: names lead to files or folders.  A file is replaced as a whole or not at all, and the folders that
lead to it are made on the way.
-/

namespace SiteReader

/-! ### Names of files -/

/-- The name of a file: the slashes it starts with, and its parts. -/
structure FilePath where
  root : String
  parts : List String
deriving DecidableEq, Repr

namespace FilePath

/-- Reads a name; repeated slashes and single points say nothing. -/
def ofText (text : String) : FilePath where
  root := match text.toList with
    | '/' :: '/' :: '/' :: _ => "/"
    | '/' :: '/' :: _ => "//"
    | '/' :: _ => "/"
    | _ => ""
  parts := ((Text.splitOn ['/'] text.toList).filter fun part => !part.isEmpty && part != ['.']).map String.ofList

/-- The text of a name. -/
def text (path : FilePath) : String :=
  if path.root.isEmpty && path.parts.isEmpty then "." else path.root ++ String.intercalate "/" path.parts

/-- The name of something inside a folder. -/
def child (path : FilePath) (name : String) : FilePath :=
  { path with parts := path.parts ++ [name] }

end FilePath

/-! ### What names lead to -/

inductive FileEntry where
  | file (bytes : ByteArray)
  | folder

/-- Entries by the parts of their names, which start from the folder `home`. -/
structure FileSystem where
  home : FilePath
  entries : List (List String × FileEntry)

namespace FileSystem

/-- The parts of a name from the home folder on. -/
def locate (fs : FileSystem) (path : FilePath) : List String :=
  if path.root = fs.home.root && fs.home.parts.isPrefixOf path.parts then path.parts.drop fs.home.parts.length
  else path.parts

/-- What a name leads to; the home folder itself has no parts. -/
def entry? (fs : FileSystem) : List String → Option FileEntry
  | [] => some .folder
  | parts => fs.entries.lookup parts

/-- The folders that lead to a name, the outermost first. -/
def leading (parts : List String) : List (List String) :=
  (List.range parts.length).map parts.take

/-- Whether one of the folders that lead to a name is a file. -/
def isObstructed (fs : FileSystem) (parts : List String) : Bool :=
  (leading parts).any fun folder => match fs.entry? folder with
    | some (.file _) => true
    | _ => false

/-- What comes of opening a file for reading. -/
inductive Opened where
  | content (bytes : ByteArray)
  | missing
  | refused

/-- Opens a file for reading. -/
def openFile (fs : FileSystem) (path : FilePath) : Opened :=
  let parts := fs.locate path
  if fs.isObstructed parts then .refused
  else match fs.entry? parts with
    | some (.file bytes) => .content bytes
    | some .folder => .refused
    | none => .missing

/-- Puts an entry in place of the one of that name. -/
def put (fs : FileSystem) (parts : List String) (entry : FileEntry) : FileSystem :=
  { fs with entries := fs.entries.filter (·.1 != parts) ++ [(parts, entry)] }

/-- Makes a folder if nothing of that name is there. -/
def makeFolder (fs : FileSystem) (parts : List String) : FileSystem :=
  match fs.entry? parts with
  | some _ => fs
  | none => fs.put parts .folder

/-- Makes the folders that lead to a name. -/
def makeLeading (fs : FileSystem) (parts : List String) : FileSystem :=
  (leading parts).foldl makeFolder fs

/-- Replaces a file; `none` if a file stands where a folder has to be, or the other way round. -/
def replaceFile (fs : FileSystem) (path : FilePath) (bytes : ByteArray) : Bool × FileSystem :=
  let parts := fs.locate path
  if fs.isObstructed parts then (false, fs)
  else
    let fs := fs.makeLeading parts
    match fs.entry? parts with
    | some .folder => (false, fs)
    | _ => (true, fs.put parts (.file bytes))

/-- Removes a file. -/
def remove (fs : FileSystem) (path : FilePath) : FileSystem :=
  let parts := fs.locate path
  { fs with entries := fs.entries.filter (·.1 != parts) }

/-- The names in the home folder, in alphabetical order. -/
def names (fs : FileSystem) : List String :=
  let tops := fs.entries.filterMap fun (parts, _) => match parts with
    | [name] => some name
    | _ => none
  tops.mergeSort fun a b => !(b < a)

end FileSystem

end SiteReader
