import SiteReader.Text.Case

/-!
# Header fields

Names of header fields are compared without regard to letter case.  Setting a field that is there keeps its place and
takes the new spelling of its name.
-/

namespace SiteReader

/-- Header fields in order. -/
abbrev Headers := List (String × String)

namespace Headers

/-- Whether two names name the same field. -/
def sameName (a b : String) : Bool :=
  lowered a == lowered b

/-- The value of the first field of that name. -/
def value? (headers : Headers) (name : String) : Option String :=
  (headers.find? fun (key, _) => sameName key name).map (·.2)

/-- Sets a field. -/
def set (name value : String) : Headers → Headers
  | [] => [(name, value)]
  | (key, old) :: rest => if sameName key name then (name, value) :: rest else (key, old) :: set name value rest

/-- Sets all fields of the second list in the first one, in order. -/
def merge (headers updates : Headers) : Headers :=
  updates.foldl (fun acc (name, value) => set name value acc) headers

/-- The fields without repeated names. -/
def distinct (headers : Headers) : Headers :=
  merge [] headers

/-- Whether a field of that name is there. -/
def names (headers : Headers) (name : String) : Bool :=
  headers.any fun (key, _) => sameName key name

/-- The fields whose names in lower case are in a list. -/
def only (allowed : List String) (headers : Headers) : Headers :=
  headers.filter fun (key, _) => allowed.contains (lowered key)

/-- The fields whose names in lower case are not in a list. -/
def without (refused : List String) (headers : Headers) : Headers :=
  headers.filter fun (key, _) => !refused.contains (lowered key)

end Headers

end SiteReader
