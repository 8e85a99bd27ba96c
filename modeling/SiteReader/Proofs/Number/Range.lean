import Mathlib.Algebra.Group.Nat.Defs
import SiteReader.Number.Double

/-!
# The range of floating-point numbers

Rounding finds the least exponent at which a quotient has a mantissa of 53 bits (`exponentOf_le_iff`).  So a quotient is
rounded to infinity if and only if it reaches `2 ^ 1024 - 2 ^ 970`, the number half a step above the largest finite one
(`ofRatio_eq_infinite_iff`).
-/

namespace SiteReader.Double

/-- The least number that is rounded to infinity, `2 ^ 1024 - 2 ^ 970`. -/
def overflowBound : Nat := (2 ^ 54 - 1) * 2 ^ 970

theorem scaleDown_ofNat (num den k : Nat) : scaleDown num den (k : Int) = (num, den * 2 ^ k) := rfl

private theorem mul_two_pow_pos {n : Nat} (hn : n ≠ 0) (k : Nat) : 0 < n * 2 ^ k :=
  Nat.mul_pos (Nat.pos_of_ne_zero hn) (Nat.two_pow_pos k)

/-- The exponent of a quotient is at most `k` if and only if the quotient lies below `2 ^ (53 + k)`. -/
theorem exponentOf_le_iff {num den : Nat} (hn : num ≠ 0) (hd : den ≠ 0) (k : Nat) :
    exponentOf num den ≤ k ↔ num < 2 ^ 53 * (den * 2 ^ k) := by
  unfold exponentOf
  simp only [Int.ofNat_eq_natCast]
  generalize hg : max (-1074) ((num.log2 : Int) - den.log2 - 53) = guess
  -- the guess is too low by at most one, which only matters if it is `k` itself
  rcases Int.lt_trichotomy guess k with hlt | rfl | hgt
  · have hbound : num < 2 ^ 53 * (den * 2 ^ k) := calc
      num < 2 ^ (num.log2 + 1) := Nat.lt_log2_self
      _ ≤ 2 ^ (53 + (den.log2 + k)) := Nat.pow_le_pow_right (by decide) (by omega)
      _ = 2 ^ 53 * (2 ^ den.log2 * 2 ^ k) := by rw [Nat.pow_add, Nat.pow_add]
      _ ≤ 2 ^ 53 * (den * 2 ^ k) := Nat.mul_le_mul_left _ (Nat.mul_le_mul_right _ (Nat.log2_self_le hd))
    refine iff_of_true ?_ hbound
    split <;> omega
  · have hpos := mul_two_pow_pos hd k
    rw [scaleDown_ofNat, ← Nat.div_lt_iff_lt_mul hpos]
    split
    next h => exact iff_of_true (Int.le_refl _) h
    next h => exact iff_of_false (by omega) h
  · have hbound : 2 ^ 53 * (den * 2 ^ k) ≤ num := calc
      2 ^ 53 * (den * 2 ^ k) ≤ 2 ^ 53 * (2 ^ (den.log2 + 1) * 2 ^ k) :=
        Nat.mul_le_mul_left _ (Nat.mul_le_mul_right _ (Nat.le_of_lt Nat.lt_log2_self))
      _ = 2 ^ (53 + (den.log2 + 1 + k)) := by rw [Nat.pow_add 2 53, Nat.pow_add 2 (den.log2 + 1)]
      _ ≤ 2 ^ num.log2 := Nat.pow_le_pow_right (by decide) (by omega)
      _ ≤ num := Nat.log2_self_le hn
    refine iff_of_false ?_ (Nat.not_lt.mpr hbound)
    split <;> omega

theorem divideToNearest_eq_iff {n d : Nat} (h : n < 2 ^ 53 * d) :
    divideToNearest n d = 2 ^ 53 ↔ (2 ^ 54 - 1) * d ≤ 2 * n := by
  have hd : 0 < d := by omega
  have hdiv := Nat.div_add_mod n d
  have hmod := Nat.mod_lt n hd
  have hq : n / d < 2 ^ 53 := Nat.div_lt_of_lt_mul (by rwa [Nat.mul_comm])
  unfold divideToNearest
  dsimp only
  generalize n / d = q at *
  generalize n % d = r at *
  rcases Nat.lt_or_eq_of_le (Nat.le_sub_one_of_lt hq) with hlt | rfl
  · have hmul : d * (q + 1) ≤ d * (2 ^ 53 - 1) := Nat.mul_le_mul_left d hlt
    rw [Nat.mul_succ] at hmul
    refine iff_of_false ?_ (by omega)
    split
    · omega
    · split <;> omega
  · split
    · omega
    · split <;> omega

private theorem mul_two_pow_succ (n k : Nat) : n * 2 ^ (k + 1) = 2 * (n * 2 ^ k) := by
  rw [Nat.pow_succ, ← Nat.mul_assoc, Nat.mul_comm]

/-- A quotient is rounded to infinity if and only if it reaches the bound. -/
theorem ofRatio_eq_infinite_iff {negative : Bool} {num den : Nat} (hd : den ≠ 0) :
    ofRatio negative num den = .infinite negative ↔ overflowBound * den ≤ num := by
  have hunit : overflowBound * den = (2 ^ 54 - 1) * (den * 2 ^ 970) := by
    unfold overflowBound
    generalize 2 ^ 970 = unit
    rw [Nat.mul_assoc, Nat.mul_comm den]
  have hdouble := mul_two_pow_succ den 970
  have hpos := mul_two_pow_pos hd 970
  rw [hunit]
  unfold ofRatio
  split
  next hn => exact iff_of_false nofun (by omega)
  next hn =>
    have hlow := exponentOf_le_iff hn hd 970
    have hhigh := exponentOf_le_iff hn hd (970 + 1)
    rw [hdouble] at hhigh
    dsimp only
    -- at the largest exponent the mantissa decides, for it can be rounded up to the next power of two
    rcases Int.lt_trichotomy (exponentOf num den) 971 with hlt | heq | hgt
    · refine iff_of_false ?_ (by omega)
      split <;> rw [if_neg (by omega)] <;> exact nofun
    · have hmantissa := divideToNearest_eq_iff (hhigh.mp (by omega))
      rw [heq, show (971 : Int) = ((970 + 1 : Nat) : Int) from rfl, scaleDown_ofNat, hdouble]
      dsimp only
      split
      next hm => exact iff_of_true (if_pos (by omega)) (by have := hmantissa.mp hm; omega)
      next hm =>
        refine iff_of_false ?_ fun hle => hm (hmantissa.mpr (by omega))
        rw [if_neg (by omega)]
        exact nofun
    · refine iff_of_true ?_ (by omega)
      split
      next => exact if_pos (by omega)
      next => rfl

theorem ofRatio_cases (negative : Bool) (num den : Nat) :
    ofRatio negative num den = .infinite negative ∨ ∃ mantissa exponent,
      ofRatio negative num den = .finite negative mantissa exponent := by
  unfold ofRatio
  dsimp only
  split
  next => exact .inr ⟨0, _, rfl⟩
  next =>
    split <;> split <;> first | exact .inl rfl | exact .inr ⟨_, _, rfl⟩

/-! ### Whole parts -/

/-- A finite number of 64 bits. -/
inductive IsFinite : Double → Prop
  | finite {negative : Bool} {mantissa : Nat} {exponent : Int} (hm : mantissa < 2 ^ 53) (he : exponent ≤ 971) :
      IsFinite (.finite negative mantissa exponent)

private theorem exists_truncate_le (negative : Bool) {mantissa : Nat} {exponent : Int} (hm : mantissa < 2 ^ 53) {k : Nat}
    (he : exponent ≤ k) :
    ∃ n, truncate? (.finite negative mantissa exponent) = some n ∧ n.natAbs ≤ 2 ^ 53 * 2 ^ k := by
  have hsign (size : Nat) : (if negative then -(Int.ofNat size) else Int.ofNat size).natAbs = size := by
    cases negative
    · rfl
    · exact Int.natAbs_neg _
  refine ⟨_, rfl, ?_⟩
  rw [hsign]
  cases exponent with
  | ofNat e => exact Nat.mul_le_mul (Nat.le_of_lt hm) (Nat.pow_le_pow_right (by decide) (Int.ofNat_le.mp he))
  | negSucc e =>
    exact Nat.le_trans (Nat.div_le_self _ _)
      (Nat.le_trans (Nat.le_of_lt hm) (Nat.le_mul_of_pos_right _ (Nat.two_pow_pos _)))

private theorem lt_thousand_bounds (k : Nat) : 2 ^ 53 * 2 ^ (k + 1) < 1000 * ((2 ^ 54 - 1) * 2 ^ k) := by
  have hpos := Nat.two_pow_pos k
  rw [mul_two_pow_succ]
  omega

/-- The whole part of a finite number stays below the bound, also as a number of thousandths. -/
theorem IsFinite.exists_truncate {x : Double} (h : x.IsFinite) :
    ∃ n, x.truncate? = some n ∧ n.natAbs < 1000 * overflowBound := by
  obtain @⟨negative, mantissa, exponent, hm, he⟩ := h
  obtain ⟨n, hn, hle⟩ := exists_truncate_le negative hm (k := 970 + 1) he
  unfold overflowBound
  exact ⟨n, hn, Nat.lt_of_le_of_lt hle (lt_thousand_bounds 970)⟩

/-- Dropping the digits behind the point is dividing by the number of smallest steps that make up one. -/
private theorem shifted_eq_div {mantissa bits : Nat} (h : mantissa < Nat.pow 2 bits) (exponent : Int) :
    (match exponent with
      | .ofNat e => mantissa * Nat.pow 2 e
      | .negSucc e => mantissa / Nat.pow 2 (e + 1)) = mantissa * Nat.pow 2 (exponent + bits).toNat / Nat.pow 2 bits := by
  simp only [Nat.pow_eq] at h ⊢
  cases exponent with
  | ofNat e =>
    have hshift : (Int.ofNat e + bits).toNat = e + bits := by simp; omega
    rw [hshift, Nat.pow_add, ← Nat.mul_assoc, Nat.mul_div_cancel _ (Nat.two_pow_pos bits)]
  | negSucc e =>
    dsimp only
    by_cases hle : e + 1 ≤ bits
    · obtain ⟨k, rfl⟩ := Nat.exists_eq_add_of_le' hle
      have hshift : (Int.negSucc e + ((k + (e + 1) : Nat) : Int)).toNat = k := by omega
      rw [hshift, Nat.pow_add 2 k, Nat.mul_comm mantissa, Nat.mul_div_mul_left _ _ (Nat.two_pow_pos k)]
    · -- nothing is left of a number that small
      have hshift : (Int.negSucc e + (bits : Int)).toNat = 0 := by omega
      have hlt : mantissa < 2 ^ (e + 1) := Nat.lt_of_lt_of_le h (Nat.pow_le_pow_right (by decide) (by omega))
      rw [hshift, Nat.pow_zero, Nat.mul_one, Nat.div_eq_of_lt h, Nat.div_eq_of_lt hlt]

/-- The whole part of a number is the quotient of its smallest steps by those that make up one. -/
theorem IsFinite.truncate?_eq {mantissa : Nat} {exponent : Int} (h : IsFinite (.finite false mantissa exponent)) :
    ∃ steps : Nat, scaled? (.finite false mantissa exponent) = some (steps : Int) ∧
      truncate? (.finite false mantissa exponent) = some ((steps / resolution : Nat) : Int) := by
  obtain ⟨hm, -⟩ := h
  have hlt : mantissa < resolution := Nat.lt_of_lt_of_le hm (by decide +kernel)
  obtain ⟨bits, hbits, hresolution⟩ : ∃ bits : Nat, (1074 : Int) = bits ∧ resolution = Nat.pow 2 bits := by
    refine ⟨1074, rfl, ?_⟩
    unfold resolution
    generalize 1074 = n
    rfl
  rw [hresolution] at hlt ⊢
  refine ⟨_, rfl, ?_⟩
  rw [hbits, ← shifted_eq_div hlt]
  rfl

end SiteReader.Double
