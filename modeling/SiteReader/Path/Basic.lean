import SiteReader.Text.Quoted
import SiteReader.Tree.Basic

/-!
# Paths into a document

A path is a list of segments that are followed from the root of a document: fields, items, and searches of the whole
subtree that has been reached.
-/

namespace SiteReader

namespace Path

/-- One step of a path. -/
inductive Segment where
  /-- The field of an object. -/
  | field (name : String)
  /-- The item of an array, counted from zero. -/
  | item (position : Nat)
  /-- The array that has been reached, as a whole. -/
  | wildcard
  /-- The values of a field anywhere below, or the objects that hold it where the value is a container or null. -/
  | search (name : String)
  /-- The objects anywhere below that hold a field, with a value that matches the literal if one is given. -/
  | filter (name : String) (literal? : Option String)
deriving DecidableEq, Repr

/-- What keeps a text from being a path. -/
inductive Defect where
  | noRoot (text : String)
  | unexpected (found : Char) (path : String)
  | badSearch (path : String)
  | noName (path : String)
  | badBracket (path : String)
  /-- An index with more digits than integers may have. -/
  | endlessIndex
deriving DecidableEq, Repr

/-- The text of a defect. -/
def Defect.message : Defect → String
  | noRoot text => "path must start with '$': " ++ quotedForm text
  | unexpected found path =>
    "unexpected " ++ quotedForm (String.ofList [found]) ++ " in path " ++ quotedForm path
  | badSearch path => "bad recursive search in path " ++ quotedForm path
  | noName path => "missing property name in path " ++ quotedForm path
  | badBracket path => "unsupported bracket expression in path " ++ quotedForm path
  | endlessIndex => "the index has too many digits"

end Path

/-- A path with the text it was read from. -/
structure Path where
  source : String
  segments : List Path.Segment
deriving DecidableEq, Repr

end SiteReader
