import SiteReader.Fault
import SiteReader.Path.Parser

/-!
# Following a path

A field or an item that is missing ends the evaluation without a value.  The wildcard and the two searches end the
path: segments after them are not followed.  Searches list what they find in the order of `Tree.walk`.
-/

namespace SiteReader

namespace Tree

/-- Comparison with the literal of a filter.  Texts are compared as such, numbers and booleans by value with the
literal read as a number. -/
def looselyEquals (value : Tree) (literal : String) : Except Fault Bool :=
  match value with
  | .text s => .ok (s = literal)
  | .integer n => match Numeral.decimal? literal.toList with
    | none => .ok false
    | some x => match Double.ofInt? n with
      | some y => .ok (x.sameValue y)
      | none => .error .overflow
  | .double y => match Numeral.decimal? literal.toList with
    | none => .ok false
    | some x => .ok (x.sameValue y)
  | .boolean b => match Numeral.decimal? literal.toList with
    | none => .ok false
    | some x => .ok (x.sameValue (Double.ofRatio false (if b then 1 else 0) 1))
  | _ => .ok false

/-- The objects of a list that hold a field with a matching value. -/
def holding (name : String) (literal? : Option String) : List Tree → Except Fault (List Tree)
  | [] => .ok []
  | node :: rest =>
    match node with
    | .object fields => match field? name fields with
      | some value => do
        let matching ← match literal? with
          | some literal => value.looselyEquals literal
          | none => .ok true
        let others ← holding name literal? rest
        return if matching then node :: others else others
      | none => holding name literal? rest
    | _ => holding name literal? rest

/-- What a search collects at a node that holds the field: the value if it is a text, a number or a boolean, else
the node. -/
def found (node value : Tree) : Tree :=
  match value with
  | .null => node
  | .array _ => node
  | .object _ => node
  | scalar => scalar

/-- The values of a field among the nodes of a list. -/
def collect (name : String) (nodes : List Tree) : List Tree :=
  nodes.filterMap fun node =>
    match node with
    | .object fields => (field? name fields).map (found node)
    | _ => none

end Tree

namespace Path

/-- Follows segments from a node. -/
def follow : List Segment → Tree → Except Fault (Option Tree)
  | [], node => .ok (some node)
  | .field name :: rest, node =>
    match node with
    | .object fields => match Tree.field? name fields with
      | some value => follow rest value
      | none => .ok none
    | _ => .ok none
  | .item position :: rest, node =>
    match node with
    | .array items => match items[position]? with
      | some value => follow rest value
      | none => .ok none
    | _ => .ok none
  | .wildcard :: _, node =>
    match node with
    | .array items => .ok (some (.array items))
    | _ => .ok none
  | .search name :: _, node => .ok (some (.array (Tree.collect name node.walk)))
  | .filter name literal? :: _, node => do
    return some (.array (← Tree.holding name literal? node.walk))

/-- The value of a path in a document, if there is one. -/
def evaluate (root : Tree) (path : Path) : Except Fault (Option Tree) :=
  follow path.segments root

end Path

end SiteReader
