/-!
# Binary floating-point numbers of 64 bits

A finite number is `± mantissa * 2 ^ exponent` with a mantissa below `2 ^ 53` and an exponent from `-1074` to `971`,
the mantissa being at least `2 ^ 52` unless the exponent is `-1074`.  Every operation is computed exactly on
fractions and rounded once, to the nearest such number and to the even mantissa in a tie.
-/

namespace SiteReader

inductive Double where
  | finite (negative : Bool) (mantissa : Nat) (exponent : Int)
  | infinite (negative : Bool)
  | nan
deriving DecidableEq, Repr

namespace Double

def zero : Double := .finite false 0 (-1074)

/-! ### Rounding -/

/-- The quotient of two numbers rounded to the nearest, a tie to the even one. -/
def divideToNearest (num den : Nat) : Nat :=
  let quotient := num / den
  let twice := 2 * (num % den)
  if twice < den then quotient
  else if den < twice then quotient + 1
  else quotient + quotient % 2

/-- `num / den` divided by `2 ^ exponent`, as a fraction. -/
def scaleDown (num den : Nat) (exponent : Int) : Nat × Nat :=
  match exponent with
  | .ofNat e => (num, den * Nat.pow 2 e)
  | .negSucc e => (num * Nat.pow 2 (e + 1), den)

/-- The exponent at which the quotient `num / den` has a mantissa of 53 bits, or the smallest exponent. -/
def exponentOf (num den : Nat) : Int :=
  let guess : Int := max (-1074) (Int.ofNat num.log2 - Int.ofNat den.log2 - 53)
  let (n, d) := scaleDown num den guess
  if n / d < Nat.pow 2 53 then guess else guess + 1

/-- The number nearest to `± num / den`. -/
def ofRatio (negative : Bool) (num den : Nat) : Double :=
  if num = 0 then .finite negative 0 (-1074)
  else
    let exponent := exponentOf num den
    let (n, d) := scaleDown num den exponent
    let mantissa := divideToNearest n d
    let (mantissa, exponent) := if mantissa = Nat.pow 2 53 then (Nat.pow 2 52, exponent + 1) else (mantissa, exponent)
    if 971 < exponent then .infinite negative else .finite negative mantissa exponent

/-- The number nearest to `± digits * 10 ^ power`.  A power far outside the range is not multiplied out. -/
def ofDecimal (negative : Bool) (digits : Nat) (power : Int) : Double :=
  let magnitude : Int := Int.ofNat (digits.log2 / 3) + power
  if digits = 0 then .finite negative 0 (-1074)
  else if 400 < power then .infinite negative
  else if magnitude < -400 then .finite negative 0 (-1074)
  else match power with
    | .ofNat p => ofRatio negative (digits * Nat.pow 10 p) 1
    | .negSucc p => ofRatio negative digits (Nat.pow 10 (p + 1))

/-- The number nearest to an integer, if one is in range. -/
def ofInt? (n : Int) : Option Double :=
  match ofRatio (n < 0) n.natAbs 1 with
  | .infinite _ => none
  | x => some x

/-! ### Values -/

/-- The number of smallest steps that make up one. -/
def resolution : Nat := Nat.pow 2 1074

/-- The value times `2 ^ 1074`, which is an integer, of a finite number. -/
def scaled? : Double → Option Int
  | .finite negative mantissa exponent =>
    let size := Int.ofNat (mantissa * Nat.pow 2 (exponent + 1074).toNat)
    some (if negative then -size else size)
  | _ => none

/-- Equality of values: the two zeros are equal and the not-a-number differs from itself. -/
def sameValue (x y : Double) : Bool :=
  match x, y with
  | .nan, _ => false
  | _, .nan => false
  | .infinite a, .infinite b => a == b
  | .infinite _, _ => false
  | _, .infinite _ => false
  | x, y => x.scaled? == y.scaled?

/-- Whether a value lies below another. -/
def isLess (x y : Double) : Bool :=
  match x, y with
  | .nan, _ => false
  | _, .nan => false
  | .infinite a, .infinite b => a && !b
  | .infinite a, _ => a
  | _, .infinite b => !b
  | x, y => x.scaled?.getD 0 < y.scaled?.getD 0

/-- The number nearest to `n / 2 ^ 1074`. -/
def ofScaled (n : Int) : Double :=
  ofRatio (n < 0) n.natAbs resolution

def add (x y : Double) : Double :=
  match x, y with
  | .nan, _ => .nan
  | _, .nan => .nan
  | .infinite a, .infinite b => if a == b then .infinite a else .nan
  | .infinite a, _ => .infinite a
  | _, .infinite b => .infinite b
  | .finite true 0 e, .finite true 0 _ => .finite true 0 e
  | x, y => ofScaled (x.scaled?.getD 0 + y.scaled?.getD 0)

def neg : Double → Double
  | .finite negative mantissa exponent => .finite (!negative) mantissa exponent
  | .infinite negative => .infinite (!negative)
  | .nan => .nan

def sub (x y : Double) : Double :=
  add x y.neg

/-- The integer part, toward zero, of a finite number. -/
def truncate? : Double → Option Int
  | .finite negative mantissa exponent =>
    let size : Nat := match exponent with
      | .ofNat e => mantissa * Nat.pow 2 e
      | .negSucc e => mantissa / Nat.pow 2 (e + 1)
    some (if negative then -(Int.ofNat size) else Int.ofNat size)
  | _ => none

/-- Whether the number is an integer. -/
def isIntegral : Double → Bool
  | .finite _ mantissa exponent =>
    match exponent with
    | .ofNat _ => true
    | .negSucc e => mantissa % Nat.pow 2 (e + 1) == 0
  | _ => false

def isZero : Double → Bool
  | .finite _ mantissa _ => mantissa == 0
  | _ => false

end Double

end SiteReader
