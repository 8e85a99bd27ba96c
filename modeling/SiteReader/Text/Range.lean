/-!
# Tables of code points

A class of characters as sorted disjoint ranges of code points, and case pairs as runs with a fixed distance.
-/

namespace SiteReader.Text

/-- Sorted disjoint ranges, each with its first and its last code point. -/
abbrev Ranges := List (Nat × Nat)

/-- Membership in sorted ranges. -/
def Ranges.has : Ranges → Nat → Bool
  | [], _ => false
  | (first, last) :: rest, n => if n < first then false else n ≤ last || Ranges.has rest n

/-- Letters `first, first + step, …, last` whose counterpart of the other case is `distance` away. -/
structure CaseShift where
  first : Nat
  last : Nat
  step : Nat
  distance : Int

/-- Whether a code point belongs to the run. -/
def CaseShift.covers (run : CaseShift) (n : Nat) : Bool :=
  run.first ≤ n && n ≤ run.last && (n - run.first) % run.step == 0

/-- The counterpart of a code point; itself when no run covers it. -/
def shiftCase : List CaseShift → Nat → Nat
  | [], n => n
  | run :: rest, n => if run.covers n then (Int.ofNat n + run.distance).toNat else shiftCase rest n

/-- The code points other than `n` whose counterpart is `n`. -/
def shiftSources (runs : List CaseShift) (n : Nat) : List Nat :=
  runs.filterMap fun run =>
    let source := (Int.ofNat n - run.distance).toNat
    if run.covers source then some source else none

end SiteReader.Text
