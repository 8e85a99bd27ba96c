import SiteReader.Markup.Basic

/-!
# Spots in a page

A spot is a node together with its place: the spot above it, and the nodes before and after it.  The page itself is the
topmost spot.  Two spots of a page are the same if they have the same address.
-/

namespace SiteReader.Markup

inductive Spot where
  | page (nodes : List Markup)
  /-- A node below a spot; the nodes before it are listed the nearest first. -/
  | child (parent : Spot) (before : List Markup) (node : Markup) (after : List Markup)

namespace Spot

/-- The number of nodes before each spot on the way up, the spot itself first. -/
def address : Spot → List Nat
  | page _ => []
  | child parent before _ _ => before.length :: parent.address

def parent? : Spot → Option Spot
  | page _ => none
  | child parent _ _ _ => some parent

/-- The spots above a spot, the nearest first. -/
def ancestors : Spot → List Spot
  | page _ => []
  | child parent _ _ _ => parent :: parent.ancestors

/-- The name of an element; the page has one that no element can have. -/
def name : Spot → String
  | page _ => "[document]"
  | child _ _ (element name _ _) _ => name
  | child _ _ (text _ _) _ => ""

def attribute? (key : String) : Spot → Option String
  | page _ => none
  | child _ _ node _ => node.attribute? key

/-- The nodes directly below a spot. -/
def nodes : Spot → List Markup
  | page nodes => nodes
  | child _ _ node _ => node.children

/-- The nodes beside a spot. -/
def besides : Spot → List Markup
  | page _ => []
  | child _ before _ after => before ++ after

/-! ### Moving -/

/-- The elements among some nodes that stand after `before` below a spot, in order. -/
def elementsAfter (parent : Spot) : List Markup → List Markup → List Spot
  | _, [] => []
  | before, text kind content :: after => elementsAfter parent (text kind content :: before) after
  | before, element name attributes children :: after =>
    child parent before (element name attributes children) after ::
      elementsAfter parent (element name attributes children :: before) after

/-- The elements among some nodes that stand before `after` below a spot, the nearest first. -/
def elementsBefore (parent : Spot) : List Markup → List Markup → List Spot
  | [], _ => []
  | text kind content :: before, after => elementsBefore parent before (text kind content :: after)
  | element name attributes children :: before, after =>
    child parent before (element name attributes children) after ::
      elementsBefore parent before (element name attributes children :: after)

/-- The elements directly below a spot, in order. -/
def children (spot : Spot) : List Spot :=
  elementsAfter spot [] spot.nodes

/-- The elements after a spot at its level, in order. -/
def later : Spot → List Spot
  | page _ => []
  | child parent before node after => elementsAfter parent (node :: before) after

/-- The elements before a spot at its level, the nearest first. -/
def earlier : Spot → List Spot
  | page _ => []
  | child parent before node after => elementsBefore parent before (node :: after)

mutual

/-- A node, if it is an element, and the elements below it, in the order of the page. -/
def elementsOf (parent : Spot) (before after : List Markup) : Markup → List Spot
  | text _ _ => []
  | element name attributes children =>
    let spot := child parent before (element name attributes children) after
    spot :: elementsAmong spot [] children

def elementsAmong (parent : Spot) (before : List Markup) : List Markup → List Spot
  | [] => []
  | node :: after => elementsOf parent before after node ++ elementsAmong parent (node :: before) after

end

/-- The elements below a spot, in the order of the page. -/
def descendants (spot : Spot) : List Spot :=
  elementsAmong spot [] spot.nodes

end Spot

end SiteReader.Markup
