/-!
# Ordered maps

An ordered map is a list of entries in the order in which their keys were first set, each key once.
-/

namespace SiteReader

/-- Sets the value of a key, which keeps its place if it is there and else comes last. -/
def setEntry {α : Type} (key : String) (value : α) : List (String × α) → List (String × α)
  | [] => [(key, value)]
  | (k, v) :: rest => if k = key then (k, value) :: rest else (k, v) :: setEntry key value rest

/-- Sets every entry of the second list in the first one, in order. -/
def updateEntries {α : Type} (entries : List (String × α)) (updates : List (String × α)) : List (String × α) :=
  updates.foldl (fun acc (key, value) => setEntry key value acc) entries

/-- Entries without repeated keys: a key stands where it came first, with the value that came last. -/
def distinctEntries {α : Type} (entries : List (String × α)) : List (String × α) :=
  updateEntries [] entries

end SiteReader
