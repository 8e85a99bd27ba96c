import SiteReader.File.System

/-!
# Replacing a file step by step

A file is replaced by way of a temporary one: the folders that lead to it are made, a temporary file is made beside it and
filled, and then takes its name.  Any of the steps may be refused.  The temporary file is taken away again if one is, unless
that is refused too; the folders stay.
-/

namespace SiteReader.FileSystem

/-- What keeps a file from being replaced, and how far it got. -/
inductive Hindrance where
  | none
  | folders (made : Nat)
  | temporary
  | filling (written : Nat) (stays : Bool)
  | placing (stays : Bool)
deriving DecidableEq, Repr

/-- Takes an entry away. -/
def erase (fs : FileSystem) (parts : List String) : FileSystem :=
  { fs with entries := fs.entries.filter (·.1 != parts) }

/-- Takes a temporary file away, unless it stays. -/
def discard (fs : FileSystem) (parts : List String) (stays : Bool) : FileSystem :=
  if stays then fs else fs.erase parts

/-- Gives an entry the name of another one, which is gone then. -/
def rename (fs : FileSystem) (old new : List String) : FileSystem :=
  match fs.entry? old with
  | some entry => (fs.erase old).put new entry
  | none => fs

/-- The number of characters in the names of all entries, folders that lead to them apart. -/
def nameLength (fs : FileSystem) : Nat :=
  fs.entries.foldr (fun entry total => (entry.1.getLastD "").length + total) 0

/-- The name of a temporary file beside another one, longer than any name that is there. -/
def temporaryName (fs : FileSystem) (parts : List String) : List String :=
  let tail := String.ofList (List.replicate (fs.nameLength + 1) '_')
  parts.dropLast ++ ["." ++ parts.getLastD "" ++ "." ++ tail]

/-- Replaces a file as far as it is not hindered. -/
def replaceStepwise (fs : FileSystem) (hindrance : Hindrance) (path : FilePath) (bytes : ByteArray) :
    Bool × FileSystem :=
  let parts := fs.locate path
  if fs.isObstructed parts then (false, fs)
  else
    let ready := fs.makeLeading parts
    let temporary := ready.temporaryName parts
    match hindrance with
    | .folders made => (false, ((leading parts).take made).foldl makeFolder fs)
    | .temporary => (false, ready)
    | .filling written stays => (false, (ready.put temporary (.file (bytes.extract 0 written))).discard temporary stays)
    | .placing stays => (false, (ready.put temporary (.file bytes)).discard temporary stays)
    | .none =>
      let filled := ready.put temporary (.file bytes)
      match filled.entry? parts with
      | some .folder => (false, filled.discard temporary false)
      | _ => (true, filled.rename temporary parts)

end SiteReader.FileSystem
