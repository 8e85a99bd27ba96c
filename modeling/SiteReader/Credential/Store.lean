import SiteReader.Credential.Record
import SiteReader.File.Replacement
import SiteReader.Url.Origin

/-!
# The credential store

A file of records.  A missing file counts as an empty one and is created by the first read; every change rewrites the
whole file.  The system may refuse to open the file, or hinder its replacement.
-/

namespace SiteReader

/-- The file that credentials are kept in. -/
structure CredentialStore where
  path : FilePath
deriving DecidableEq, Repr

/-- A computation on a file system that may fail. -/
abbrev Filed (α : Type) := ExceptT Failure (StateM FileSystem) α

namespace CredentialStore

/-- The environment variable for the file of credentials. -/
def fileVariable : String := "BOOKSOURCE_AUTH_FILE"

/-- The file of credentials that the environment names, or else the usual one in a folder. -/
def usualPath (environment : List (String × String)) (folder : FilePath) : FilePath :=
  match environment.lookup fileVariable with
  | some configured => if configured.isEmpty then folder.child "book_source_auth.json" else FilePath.ofText configured
  | none => folder.child "book_source_auth.json"

/-- What the system refuses while a store is used: to open the file, to make a missing one, to write it. -/
structure Trouble where
  opening : Bool := false
  making : FileSystem.Hindrance := .none
  writing : FileSystem.Hindrance := .none
deriving DecidableEq, Repr

/-- Replaces the records of the store. -/
def write (store : CredentialStore) (records : List Credential) (hindrance : FileSystem.Hindrance := .none) :
    Filed Unit := do
  let fs ← get
  let (done, fs) := fs.replaceStepwise hindrance store.path (Credential.fileText records).toUTF8
  set fs
  if !done then throw (.store (.unwritable store.path.text))

/-- Reads the records of the store. -/
def read (store : CredentialStore) (trouble : Trouble := {}) : Filed (List Credential) := do
  let fs ← get
  match if trouble.opening then .refused else fs.openFile store.path with
  | .missing => do
    store.write [] trouble.making
    return []
  | .refused => throw (.store (.unreadable store.path.text))
  | .content bytes => match String.fromUTF8? bytes with
    | none => throw (.fault .undecodable)
    | some text => match Credential.ofFileText store.path.text text with
      | .ok records => return records
      | .error cause => throw (.store cause)

/-- The record of a source. -/
def find? (store : CredentialStore) (sourceId : String) (trouble : Trouble := {}) : Filed (Option Credential) := do
  return Credential.find? sourceId (← store.read trouble)

/-- Puts a record in place of the one of its source, or at the end. -/
def upsert (store : CredentialStore) (record : Credential) (trouble : Trouble := {}) : Filed Unit := do
  store.write (Credential.upsert record (← store.read trouble)) trouble.writing

/-- The cookie of a source for a URL, empty if there is none.  A text that is no absolute URL has none. -/
def cookieFor (store : CredentialStore) (sourceId url : String) (trouble : Trouble := {}) : Filed String :=
  match Url.originKeys url with
  | .error _ => pure ""
  | .ok keys => do
    match ← store.find? sourceId trouble with
    | none => return ""
    | some record => return (record.cookie? keys).getD ""

end CredentialStore

end SiteReader
