import SiteReader.Number.Shortest

/-!
# Durations

Durations are given in milliseconds, as a whole number or as a floating-point one, and are told as they were given.
-/

namespace SiteReader

/-- A number of milliseconds. -/
inductive Duration where
  | whole (millis : Int)
  | fraction (millis : Double)
deriving DecidableEq, Repr

namespace Duration

/-- The number of milliseconds as text. -/
def text : Duration → String
  | whole n => toString n
  | fraction x => String.ofList (Double.text Double.plainStyle x)

def isZero : Duration → Bool
  | whole n => n = 0
  | fraction x => x.isZero

/-- The duration in seconds as the quotient of two integers, if it is finite. -/
def seconds? : Duration → Option (Int × Nat)
  | whole n => some (n, 1000)
  | fraction x => x.scaled?.map fun n => (n, 1000 * Double.resolution)

end Duration

end SiteReader
