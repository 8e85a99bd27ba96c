import SiteReader.Command.Run

/-!
# The program

Runs a command line on the files of the current folder.  There is no transport to other hosts: every request fails.
-/

namespace SiteReader.Main

/-- What comes back for a request. -/
def noTransport : Gateway.Reply where
  status := 200
  headers := []
  chunks := []
  cost := .whole 0
  disruption? := some ⟨.other, "no transport"⟩

/-- The names of the files that a command line uses. -/
def filesOf (environment : List (String × String)) (home : FilePath) (options : Command.Options) : List FilePath :=
  let store := (options.authFile?.map FilePath.ofText).getD (CredentialStore.usualPath environment home)
  let sources? := match options.task with
    | .fetch fetch => fetch.sourcesFile?
    | _ => none
  store :: (sources?.map FilePath.ofText).toList

/-- The environment variables that are read. -/
def environment : IO (List (String × String)) := do
  let names := [Command.timeoutVariable, CredentialStore.fileVariable]
  let values ← names.mapM fun name => return (← IO.getEnv name).map fun value => (name, value)
  return values.filterMap id

/-- Takes a file into the file system, and a folder in place of what is there but cannot be read. -/
def load (fs : FileSystem) (path : FilePath) : IO FileSystem := do
  try
    return (fs.replaceFile path (← IO.FS.readBinFile path.text)).2
  catch
    | .noFileOrDirectory .. => return fs
    | _ => return fs.makeFolder (fs.locate path)

/-- Writes a file out. -/
def write (path : FilePath) (bytes : ByteArray) : IO Unit := do
  IO.FS.createDirAll { path with parts := path.parts.dropLast }.text
  IO.FS.writeBinFile path.text bytes

/-- Writes a file out if it has changed. -/
def save (before after : FileSystem) (path : FilePath) : IO Unit := do
  match before.openFile path, after.openFile path with
  | .content old, .content new => if old != new then write path new
  | _, .content new => write path new
  | _, _ => pure ()

/-- Runs a command line that can be read. -/
def runOn (environment : List (String × String)) (home : FilePath) (options : Command.Options)
    (arguments : List String) : IO Command.Ending := do
  let paths := filesOf environment home options
  let files ← paths.foldlM load ⟨home, []⟩
  let world : Gateway.World Double :=
    ⟨.zero, [], noTransport, [], [], files, Notes.empty, [], []⟩
  let (ending, world) := (Command.run environment (fun _ => .error "no resolver") arguments).run world
  paths.forM (save files world.files)
  if !options.quiet then world.log.forM fun entry => IO.eprintln entry.text
  return ending

/-- Reports how a command line ended; gives the exit code. -/
def report : Command.Ending → IO UInt32
  | .refused (.stop .help) => do
    IO.println "usage: booksource [--auth-file FILE] [--quiet | --verbose] fetch | cookie | check ..."
    return 0
  | .refused (.stop .usage) => do
    IO.eprintln "booksource: error: unreadable command line"
    return 2
  | .refused (.mistake mistake) => do
    IO.eprintln ("booksource: error: " ++ mistake.message)
    return 2
  | .broken failure => do
    IO.eprintln failure.message
    return 1
  | .done exitCode output lines => do
    lines.forM IO.eprintln
    IO.print output
    return UInt32.ofNat exitCode

end SiteReader.Main

/-- Runs the command line it is given. -/
def main (arguments : List String) : IO UInt32 := do
  let environment ← SiteReader.Main.environment
  match SiteReader.Command.Options.parse environment arguments with
  | .error reason => SiteReader.Main.report (.refused reason)
  | .ok options => do
    let home := SiteReader.FilePath.ofText (← IO.currentDir).toString
    SiteReader.Main.report (← SiteReader.Main.runOn environment home options arguments)
