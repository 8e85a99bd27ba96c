/-!
# Selectors

A selector tests an element: its name, its attributes, its place among its siblings, and the elements that it stands
below, above or beside.
-/

namespace SiteReader

namespace Selector

/-- How two elements stand to each other, the first one coming first in the page: anywhere below, directly below,
anywhere after at the same level, directly after. -/
inductive Combinator where
  | below | directlyBelow | later | next
deriving DecidableEq, Repr

/-- How the value of an attribute is compared with a text: not at all, as a whole, at its start, at its end, anywhere, as
one of its words, or as its start up to a hyphen. -/
inductive Comparison where
  | present | equals | startsWith | endsWith | contains | word | dashed
deriving DecidableEq, Repr

structure AttributeTest where
  name : String
  comparison : Comparison
  value : String
  anyCase : Bool
deriving DecidableEq, Repr

/-- The numbers `step * k + offset` for `k` from 0 on. -/
structure Cycle where
  step : Int
  offset : Int
deriving DecidableEq, Repr

/-- Whether a number is one of the cycle. -/
def Cycle.has (cycle : Cycle) (n : Int) : Bool :=
  if cycle.step = 0 then n = cycle.offset
  else (n - cycle.offset) % cycle.step = 0 && 0 ≤ (n - cycle.offset) / cycle.step

/-- The least number from 1 on that is one of the cycle, whose offset is at least 1. -/
def Cycle.least (cycle : Cycle) : Int :=
  if 0 < cycle.step then cycle.offset else (cycle.offset - 1) % cycle.step + 1

/-- Whether the numbers of a cycle are looked for among so many nodes at all.  Those of an offset from 1 on are if the
least one is below the number of nodes; those of a negative offset are unless they count up over zero. -/
def Cycle.isSought (cycle : Cycle) (nodes : Nat) : Bool :=
  if cycle.step = 0 then true
  else if 1 ≤ cycle.offset then cycle.least < nodes
  else cycle.offset = 0 || cycle.offset % cycle.step != 0

end Selector

mutual

/-- A selector without alternatives: tests of one element, and how another element has to stand to it. -/
inductive Selector where
  /-- Nothing is selected. -/
  | never
  | all (tests : List Selector.Test) (tie : Selector.Tie)

/-- What another element has to be. -/
inductive Selector.Tie where
  | free
  /-- Another element comes first, and this one stands to it as the combinator says. -/
  | back (combinator : Selector.Combinator) (other : Selector)
  /-- Another element stands to this one as the combinator says. -/
  | ahead (combinator : Selector.Combinator) (other : Selector)

/-- A test of one element. -/
inductive Selector.Test where
  /-- The name of the element; an origin other than `*` is that of no element. -/
  | name (origin? : Option String) (name : String)
  | identifier (id : String)
  | inClass (name : String)
  | valued (test : Selector.AttributeTest)
  /-- The element around the page. -/
  | root
  /-- The element that the search starts from. -/
  | scope
  | empty
  /-- A name that needs no definition: one without a hyphen, or with a colon. -/
  | defined
  /-- The number of the element among its siblings: those of its name only, or those that one of some selectors fits,
  all of them if there are none. -/
  | position (cycle : Selector.Cycle) (fromEnd sameName : Bool) (among : List Selector)
  /-- One of some texts in the element, or directly in it. -/
  | mentions (own : Bool) (texts : List String)
  /-- The language of the element, given by ranges. -/
  | language (ranges : List String)
  /-- A text that is empty or a line end. -/
  | blank
  | anyOf (negated : Bool) (selectors : List Selector)

end

end SiteReader
