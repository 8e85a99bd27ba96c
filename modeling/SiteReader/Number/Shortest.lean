import SiteReader.Number.Double

/-!
# The shortest decimal that reads back

The decimals that round to a finite number form an interval around it, whose ends belong to it when the mantissa is
even.  Among them the one with the fewest digits is written, and of several the nearest.  On the grid of decimals
with a given number of digits only the two neighbours of the number have to be tried.
-/

namespace SiteReader.Double

/-- The interval of reals that round to a positive number, as numerators over a common denominator: lower end,
number, upper end, denominator, and whether the ends belong to it. -/
structure Interval where
  low : Nat
  value : Nat
  high : Nat
  den : Nat
  closed : Bool

/-- The interval around `mantissa * 2 ^ exponent`.  Below a power of two the grid of numbers is twice as fine. -/
def interval (mantissa : Nat) (exponent : Int) : Interval :=
  let below := if mantissa = Nat.pow 2 52 ∧ -1074 < exponent then 1 else 2
  let even := mantissa % 2 == 0
  match exponent with
  | .ofNat e =>
    let step := Nat.pow 2 e
    ⟨(4 * mantissa - below) * step, 4 * mantissa * step, (4 * mantissa + 2) * step, 4, even⟩
  | .negSucc e => ⟨4 * mantissa - below, 4 * mantissa, 4 * mantissa + 2, 4 * Nat.pow 2 (e + 1), even⟩

/-- Whether `num / den` lies in the interval. -/
def Interval.has (i : Interval) (num den : Nat) : Bool :=
  let (low, x, high) := (i.low * den, num * i.den, i.high * den)
  (low < x && x < high) || (i.closed && (low == x || x == high))

/-- `n * 10 ^ power` as a fraction. -/
def decimalFraction (n : Nat) (power : Int) : Nat × Nat :=
  match power with
  | .ofNat p => (n * Nat.pow 10 p, 1)
  | .negSucc p => (n, Nat.pow 10 (p + 1))

/-- The nearest multiple of `10 ^ power` in the interval, as the factor, if there is one. -/
def Interval.onGrid? (i : Interval) (power : Int) : Option Nat :=
  let (num, den) := match power with
    | .ofNat p => (i.value, i.den * Nat.pow 10 p)
    | .negSucc p => (i.value * Nat.pow 10 (p + 1), i.den)
  let down := num / den
  let rest := num % den
  let fits (n : Nat) : Bool :=
    let (a, b) := decimalFraction n power
    i.has a b
  match fits down, fits (down + 1) with
  | true, true => if 2 * rest < den || (2 * rest == den && down % 2 == 0) then some down else some (down + 1)
  | true, false => some down
  | false, true => some (down + 1)
  | false, false => none

/-- The first grid, from coarse to fine, that meets the interval. -/
def Interval.search (i : Interval) : Nat → Int → Nat × Int
  | 0, power => ((i.onGrid? power).getD 0, power)
  | tries + 1, power =>
    match i.onGrid? power with
    | some n => if n = 0 then i.search tries (power - 1) else (n, power)
    | none => i.search tries (power - 1)

/-- Digits without zeros at their end, and the power of ten that they count. -/
def dropZeros : Nat → Nat → Int → Nat × Int
  | 0, n, power => (n, power)
  | fuel + 1, n, power => if n % 10 = 0 ∧ n ≠ 0 then dropZeros fuel (n / 10) (power + 1) else (n, power)

/-- The shortest decimal `n * 10 ^ power` that rounds to the positive number. -/
def shortest (mantissa : Nat) (exponent : Int) : Nat × Int :=
  let i := interval mantissa exponent
  let size := (Nat.toDigits 10 (i.value / i.den)).length
  let start : Int :=
    if i.den ≤ i.value then size else -(Int.ofNat ((Nat.toDigits 10 (i.den / i.value)).length - 1))
  let (n, power) := i.search 24 start
  dropZeros 24 n power

/-! ### Decimal text -/

/-- How a number is written: positionally when the first digit counts a power of ten from `leastPower` to below
`topPower`, else with an exponent of at least two digits. -/
structure NumberStyle where
  leastPower : Int
  topPower : Int
  infinity : String
  notANumber : String

/-- The digits of a number with the point put where `first` tells the power of the first digit. -/
def positional (digits : List Char) (first : Int) : List Char :=
  match first with
  | .negSucc k => '0' :: '.' :: (List.replicate k '0' ++ digits)
  | .ofNat k =>
    let whole := digits.take (k + 1)
    let padded := whole ++ List.replicate (k + 1 - whole.length) '0'
    match digits.drop (k + 1) with
    | [] => padded ++ ['.', '0']
    | rest => padded ++ '.' :: rest

/-- The digits with an exponent. -/
def scientific (digits : List Char) (first : Int) : List Char :=
  let size := Nat.toDigits 10 first.natAbs
  let exponent := (if first < 0 then '-' else '+') :: (if size.length < 2 then '0' :: size else size)
  match digits with
  | [] => 'e' :: exponent
  | [d] => d :: 'e' :: exponent
  | d :: rest => d :: '.' :: rest ++ 'e' :: exponent

/-- The text of a number. -/
def text (style : NumberStyle) (x : Double) : List Char :=
  match x with
  | .nan => style.notANumber.toList
  | .infinite negative => (if negative then ['-'] else []) ++ style.infinity.toList
  | .finite negative mantissa exponent =>
    let body :=
      if mantissa = 0 then ['0', '.', '0']
      else
        let (n, power) := shortest mantissa exponent
        let digits := Nat.toDigits 10 n
        let first := power + Int.ofNat digits.length - 1
        if style.leastPower ≤ first ∧ first < style.topPower then positional digits first
        else scientific digits first
    (if negative then ['-'] else []) ++ body

/-- Numbers inside JSON text. -/
def jsonStyle : NumberStyle := ⟨-4, 16, "Infinity", "NaN"⟩

/-- Numbers inside plain text. -/
def plainStyle : NumberStyle := ⟨-4, 16, "inf", "nan"⟩

end SiteReader.Double
