import SiteReader.Duration

/-!
# Time

The gateway only adds, subtracts and compares points in time, so it runs on any clock: on the floating-point seconds of
the program, and on exact seconds, where sums do not round.
-/

namespace SiteReader

/-- Points and spans of time in seconds. -/
class Clock (τ : Type) where
  zero : τ
  /-- The span of so many milliseconds, if it can be expressed. -/
  span? : Duration → Option τ
  add : τ → τ → τ
  sub : τ → τ → τ
  isLess : τ → τ → Bool

/-- Seconds as floating-point numbers. -/
instance Double.clock : Clock Double where
  zero := .zero
  span? duration := do
    let (n, d) ← duration.seconds?
    match Double.ofRatio (n < 0) n.natAbs d with
    | .infinite _ => none
    | seconds => some seconds
  add := Double.add
  sub := Double.sub
  isLess := Double.isLess

/-- Exact seconds. -/
instance Rat.clock : Clock Rat where
  zero := 0
  span? duration := duration.seconds?.map fun (n, d) => n / d
  add a b := a + b
  sub a b := a - b
  isLess a b := a < b

end SiteReader
