import SiteReader.Entry
import SiteReader.Number.Numeral
import SiteReader.Number.Shortest

/-!
# Document trees

A decoded document is a tree of scalars, arrays and objects; the fields of an object keep the order in which they
were first set.  `preorder` lists a node before the listings of its children, and `walk` yields the same list with
an explicit stack, which documents of any depth fit.
-/

namespace SiteReader

inductive Tree where
  | null
  | boolean (value : Bool)
  | integer (value : Int)
  | double (value : Double)
  | text (value : String)
  | array (items : List Tree)
  | object (fields : List (String × Tree))
deriving Inhabited

/-- The six kinds of nodes; integers and floating-point numbers are of one kind. -/
inductive Kind where
  | null | boolean | number | string | array | object
deriving DecidableEq, Repr

namespace Tree

def kind : Tree → Kind
  | null => .null
  | boolean _ => .boolean
  | integer _ => .number
  | double _ => .number
  | text _ => .string
  | array _ => .array
  | object _ => .object

/-- The nodes directly below a node, in the order of the container. -/
def children : Tree → List Tree
  | array items => items
  | object fields => fields.map (·.2)
  | _ => []

/-- Arrays and objects. -/
def isContainer : Tree → Bool
  | array _ => true
  | object _ => true
  | _ => false

/-! ### Listing all nodes -/

mutual

/-- A node, then the listings of its children. -/
def preorder : Tree → List Tree
  | array items => array items :: preorderItems items
  | object fields => object fields :: preorderFields fields
  | null => [null]
  | boolean b => [boolean b]
  | integer n => [integer n]
  | double x => [double x]
  | text s => [text s]

def preorderItems : List Tree → List Tree
  | [] => []
  | t :: rest => preorder t ++ preorderItems rest

def preorderFields : List (String × Tree) → List Tree
  | [] => []
  | (_, t) :: rest => preorder t ++ preorderFields rest

end

mutual

/-- The number of nodes of a tree. -/
def size : Tree → Nat
  | array items => 1 + sizeItems items
  | object fields => 1 + sizeFields fields
  | null => 1
  | boolean _ => 1
  | integer _ => 1
  | double _ => 1
  | text _ => 1

def sizeItems : List Tree → Nat
  | [] => 0
  | t :: rest => size t + sizeItems rest

def sizeFields : List (String × Tree) → Nat
  | [] => 0
  | (_, t) :: rest => size t + sizeFields rest

end

theorem sizeItems_append (a b : List Tree) : sizeItems (a ++ b) = sizeItems a + sizeItems b := by
  induction a with
  | nil => simp [sizeItems]
  | cons t a ih => simp [sizeItems, ih]; omega

theorem sizeItems_map_snd (fields : List (String × Tree)) : sizeItems (fields.map (·.2)) = sizeFields fields := by
  induction fields with
  | nil => rfl
  | cons f fields ih => obtain ⟨k, t⟩ := f; simp [sizeItems, sizeFields, ih]

theorem size_eq (t : Tree) : t.size = 1 + sizeItems t.children := by
  cases t <;> simp [size, children, sizeItems, sizeItems_map_snd]

/-- Takes the nodes off a stack, each time putting the children of the node in its place. -/
def walkStack (stack : List Tree) : List Tree :=
  match stack with
  | [] => []
  | node :: rest => node :: walkStack (node.children ++ rest)
termination_by sizeItems stack
decreasing_by
  simp only [sizeItems_append, sizeItems]
  have := size_eq node
  omega

/-- Every node of the tree, a node before its children. -/
def walk (root : Tree) : List Tree :=
  walkStack [root]

/-! ### Fields of objects -/

/-- The value of a field. -/
def field? (name : String) : List (String × Tree) → Option Tree
  | [] => none
  | (key, value) :: rest => if key = name then some value else field? name rest

/-! ### Scalars -/

/-- The text that a scalar is compared by; null and containers have none. -/
def scalarText? : Tree → Option String
  | text s => some s
  | boolean b => some (if b then "true" else "false")
  | integer n => some (String.ofList (Numeral.ofInt n))
  | double x =>
    some <| String.ofList <|
      if x.isIntegral then match x.truncate? with
        | some n => Numeral.ofInt n
        | none => []
      else x.text Double.plainStyle
  | _ => none

/-- Whether a value stands for "given": not null, false, zero or empty. -/
def isTruthy : Tree → Bool
  | null => false
  | boolean b => b
  | integer n => n != 0
  | double x => !x.isZero
  | text s => s != ""
  | array items => !items.isEmpty
  | object fields => !fields.isEmpty

end Tree

end SiteReader
