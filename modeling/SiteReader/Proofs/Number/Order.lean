import Mathlib.Tactic.SplitIfs
import SiteReader.Proofs.Number.Range

/-!
# Rounding keeps the order

A number of smallest steps is rounded to a multiple of the power of two that leaves a mantissa of 53 bits (`rounded`), and
the greater of two numbers is not rounded below the other (`rounded_mono`, `isLess_ofScaled`).  So the time that is left up
to a deadline does not grow while the clock does not go backwards (`isLess_sub`).
-/

namespace SiteReader.Double

/-! ### Quotients -/

theorem div_le_divideToNearest (n d : Nat) : n / d ≤ divideToNearest n d ∧ divideToNearest n d ≤ n / d + 1 := by
  unfold divideToNearest
  dsimp only
  split_ifs <;> omega

theorem divideToNearest_mono {n m : Nat} (h : n ≤ m) (d : Nat) : divideToNearest n d ≤ divideToNearest m d := by
  have hq : n / d ≤ m / d := Nat.div_le_div_right h
  rcases Nat.lt_or_eq_of_le hq with hlt | heq
  · have hn := (div_le_divideToNearest n d).2
    have hm := (div_le_divideToNearest m d).1
    omega
  · -- with the same quotient the remainders decide
    have hr : n % d ≤ m % d := by
      have hn := Nat.div_add_mod n d
      have hm := Nat.div_add_mod m d
      rw [heq] at hn
      omega
    unfold divideToNearest
    dsimp only
    rw [heq]
    split_ifs <;> omega

theorem divideToNearest_mul {d : Nat} (hd : 0 < d) (c : Nat) : divideToNearest (c * d) d = c := by
  unfold divideToNearest
  rw [Nat.mul_mod_left, Nat.mul_div_cancel c hd]
  exact if_pos hd

theorem divideToNearest_scale (n d : Nat) {c : Nat} (hc : 0 < c) :
    divideToNearest (n * c) (d * c) = divideToNearest n d := by
  unfold divideToNearest
  have hless (a b : Nat) : a * c < b * c ↔ a < b := Nat.mul_lt_mul_right hc
  rw [Nat.mul_mod_mul_right, Nat.mul_div_mul_right n d hc]
  simp only [← Nat.mul_assoc, hless]

/-! ### Numbers of smallest steps -/

/-- A number of smallest steps rounded to a mantissa of 53 bits. -/
def rounded (num : Nat) : Nat :=
  divideToNearest num (2 ^ (num.log2 - 52)) * 2 ^ (num.log2 - 52)

theorem rounded_le {num k : Nat} (h : num ≤ 2 ^ 53 * 2 ^ k) (hk : num.log2 - 52 = k) : rounded num ≤ 2 ^ 53 * 2 ^ k := by
  have hpos := Nat.two_pow_pos k
  have hle : divideToNearest num (2 ^ k) ≤ 2 ^ 53 := by
    have := divideToNearest_mono h (2 ^ k)
    rwa [divideToNearest_mul hpos] at this
  unfold rounded
  rw [hk]
  exact Nat.mul_le_mul_right _ hle

theorem le_rounded {num k : Nat} (h : 2 ^ 52 * 2 ^ k ≤ num) (hk : num.log2 - 52 = k) : 2 ^ 52 * 2 ^ k ≤ rounded num := by
  have hpos := Nat.two_pow_pos k
  have hle : 2 ^ 52 ≤ divideToNearest num (2 ^ k) := by
    have := divideToNearest_mono h (2 ^ k)
    rwa [divideToNearest_mul hpos] at this
  unfold rounded
  rw [hk]
  exact Nat.mul_le_mul_right _ hle

theorem rounded_mono {n m : Nat} (h : n ≤ m) : rounded n ≤ rounded m := by
  by_cases hn : n = 0
  · subst hn
    have hzero : rounded 0 = 0 := by decide
    rw [hzero]
    exact Nat.zero_le _
  have hm : m ≠ 0 := by omega
  have hlog : n.log2 ≤ m.log2 := by
    rw [Nat.le_log2 hm]
    exact Nat.le_trans (Nat.log2_self_le hn) h
  rcases Nat.lt_or_eq_of_le (Nat.sub_le_sub_right hlog 52) with hlt | heq
  · -- a power of two stands between two numbers with different exponents
    generalize hj : n.log2 - 52 = j at hlt
    generalize hk : m.log2 - 52 = k at hlt
    have hbelow : n ≤ 2 ^ 53 * 2 ^ j := by
      rw [← Nat.pow_add]
      exact Nat.le_of_lt (Nat.lt_of_lt_of_le Nat.lt_log2_self (Nat.pow_le_pow_right (by decide) (by omega)))
    have habove : 2 ^ 52 * 2 ^ k ≤ m := by
      rw [← Nat.pow_add]
      exact Nat.le_trans (Nat.pow_le_pow_right (by decide) (by omega)) (Nat.log2_self_le hm)
    calc rounded n ≤ 2 ^ 53 * 2 ^ j := rounded_le hbelow hj
      _ = 2 ^ (53 + j) := (Nat.pow_add 2 53 j).symm
      _ ≤ 2 ^ (52 + k) := Nat.pow_le_pow_right (by decide) (by omega)
      _ = 2 ^ 52 * 2 ^ k := Nat.pow_add 2 52 k
      _ ≤ rounded m := le_rounded habove hk
  · unfold rounded
    rw [heq]
    exact Nat.mul_le_mul_right _ (divideToNearest_mono h _)

/-! ### Rounding -/

private theorem resolution_eq {k j : Nat} (h : 1074 = k + j) : resolution = 2 ^ k * 2 ^ j := by
  unfold resolution
  rw [h]
  exact Nat.pow_add 2 k j

private theorem log2_resolution : resolution.log2 = 1074 := by
  unfold resolution
  generalize 1074 = n
  exact Nat.log2_two_pow

theorem scaleDown_resolution (num k : Nat) :
    ∃ c, 0 < c ∧ scaleDown num resolution ((k : Int) - 1074) = (num * c, 2 ^ k * c) := by
  generalize he : (k : Int) - 1074 = exponent
  cases exponent with
  | ofNat j =>
    have hk : k = 1074 + j := by
      rw [Int.ofNat_eq_natCast] at he
      omega
    refine ⟨1, Nat.one_pos, ?_⟩
    rw [hk]
    unfold scaleDown resolution
    generalize 1074 = n
    simp only [Nat.pow_eq, Nat.pow_add, Nat.mul_one]
  | negSucc j =>
    have hk : 1074 = k + (j + 1) := by omega
    refine ⟨2 ^ (j + 1), Nat.two_pow_pos _, ?_⟩
    rw [scaleDown, Nat.pow_eq, ← resolution_eq hk]

theorem exponentOf_resolution {num : Nat} (hn : num ≠ 0) :
    exponentOf num resolution = ((num.log2 - 52 : Nat) : Int) - 1074 := by
  obtain ⟨k, hk, hguess⟩ : ∃ k : Nat, k = num.log2 - 53 ∧
      max (-1074) (Int.ofNat num.log2 - Int.ofNat resolution.log2 - 53) = (k : Int) - 1074 := by
    refine ⟨_, rfl, ?_⟩
    rw [log2_resolution]
    simp only [Int.ofNat_eq_natCast]
    omega
  obtain ⟨c, hc, hscale⟩ := scaleDown_resolution num k
  unfold exponentOf
  rw [hguess]
  simp only [hscale, Nat.pow_eq, Nat.mul_div_mul_right _ _ hc]
  have hlow := Nat.log2_self_le hn
  have hhigh : num < 2 ^ (num.log2 + 1) := Nat.lt_log2_self
  by_cases hlog : num.log2 ≤ 52
  · -- below 2 ^ 53 steps the number is its own mantissa
    have hzero : k = 0 := by omega
    have hlt : num / 2 ^ k < 2 ^ 53 := by
      rw [hzero, Nat.pow_zero, Nat.div_one]
      exact Nat.lt_of_lt_of_le hhigh (Nat.pow_le_pow_right (by decide) (by omega))
    rw [if_pos hlt]
    omega
  · have hle : 2 ^ 53 ≤ num / 2 ^ k := by
      rw [Nat.le_div_iff_mul_le (Nat.two_pow_pos k), ← Nat.pow_add]
      exact Nat.le_trans (Nat.pow_le_pow_right (by decide) (by omega)) hlow
    rw [if_neg (Nat.not_lt.mpr hle)]
    omega

theorem resolution_pos : 0 < resolution := by
  unfold resolution
  generalize 1074 = n
  exact Nat.two_pow_pos n

/-- A number of smallest steps is rounded to a multiple of them, unless it is beyond the range. -/
theorem ofRatio_resolution (negative : Bool) (num : Nat) :
    (overflowBound * resolution ≤ num ∧ ofRatio negative num resolution = .infinite negative) ∨
      num < overflowBound * resolution ∧ ∃ mantissa exponent,
        ofRatio negative num resolution = .finite negative mantissa exponent ∧
          mantissa * 2 ^ (exponent + 1074).toNat = rounded num := by
  have hinfinite : ofRatio negative num resolution = .infinite negative ↔ overflowBound * resolution ≤ num :=
    ofRatio_eq_infinite_iff (Nat.ne_of_gt resolution_pos)
  rcases Nat.lt_or_ge num (overflowBound * resolution) with hlt | hge
  · refine .inr ⟨hlt, ?_⟩
    have hfinite : ofRatio negative num resolution ≠ .infinite negative := fun h => by
      have := hinfinite.mp h
      omega
    unfold ofRatio at hfinite ⊢
    split
    next hn =>
      subst hn
      refine ⟨0, -1074, rfl, ?_⟩
      decide
    next hn =>
      rw [if_neg hn] at hfinite
      obtain ⟨c, hc, hscale⟩ := scaleDown_resolution num (num.log2 - 52)
      rw [exponentOf_resolution hn] at hfinite ⊢
      simp only [hscale, divideToNearest_scale _ _ hc, Nat.pow_eq] at hfinite ⊢
      generalize hk : num.log2 - 52 = k at hfinite ⊢
      have hrounded : rounded num = divideToNearest num (2 ^ k) * 2 ^ k := by rw [rounded, hk]
      have hexponent : ((k : Int) - 1074 + 1074).toNat = k := by omega
      have hnext : ((k : Int) - 1074 + 1 + 1074).toNat = k + 1 := by omega
      by_cases hm : divideToNearest num (2 ^ k) = 2 ^ 53
      · simp only [if_pos hm] at hfinite ⊢
        split at hfinite
        next => exact absurd rfl hfinite
        next hle =>
          refine ⟨_, _, if_neg hle, ?_⟩
          rw [hnext, hrounded, hm, ← Nat.pow_add, ← Nat.pow_add, show 53 + k = 52 + (k + 1) by omega]
      · simp only [if_neg hm] at hfinite ⊢
        split at hfinite
        next => exact absurd rfl hfinite
        next hle =>
          refine ⟨_, _, if_neg hle, ?_⟩
          rw [hexponent, hrounded]
  · exact .inl ⟨hge, hinfinite.mpr hge⟩

/-! ### The order of sums -/

theorem isLess_infinite (x : Double) : isLess (.infinite false) x = false := by
  cases x <;> rfl

theorem isLess_infinite_negative (x : Double) : isLess x (.infinite true) = false := by
  cases x with
  | finite => rfl
  | infinite negative => exact Bool.and_false _
  | nan => rfl

/-- The greater of two numbers of smallest steps is not rounded below the other. -/
theorem isLess_ofScaled {n m : Int} (h : n ≤ m) : isLess (ofScaled m) (ofScaled n) = false := by
  unfold ofScaled
  rcases ofRatio_resolution (m < 0) m.natAbs with ⟨hbig, hm⟩ | ⟨hsmall, mantissa, exponent, hm, hvalue⟩
  · rw [hm]
    by_cases hneg : m < 0
    · -- then `n` is at least as far below zero
      rcases ofRatio_resolution (n < 0) n.natAbs with ⟨-, hn⟩ | ⟨hsmall, -⟩
      · rw [hn, decide_eq_true (Int.lt_of_le_of_lt h hneg)]
        exact isLess_infinite_negative _
      · omega
    · rw [decide_eq_false hneg]
      exact isLess_infinite _
  · rw [hm]
    rcases ofRatio_resolution (n < 0) n.natAbs with ⟨hbig, hn⟩ | ⟨-, mantissa', exponent', hn, hvalue'⟩
    · rw [hn]
      by_cases hneg : n < 0
      · rw [decide_eq_true hneg]
        exact isLess_infinite_negative _
      · omega
    · rw [hn]
      refine decide_eq_false (Int.not_lt.mpr ?_)
      simp only [scaled?, Option.getD_some, Nat.pow_eq, hvalue, hvalue', Int.ofNat_eq_natCast, decide_eq_true_eq]
      by_cases hneg : m < 0
      · have hle : rounded m.natAbs ≤ rounded n.natAbs := rounded_mono (by omega)
        rw [if_pos hneg, if_pos (Int.lt_of_le_of_lt h hneg)]
        omega
      · by_cases hneg' : n < 0
        · rw [if_neg hneg, if_pos hneg']
          omega
        · have hle : rounded n.natAbs ≤ rounded m.natAbs := rounded_mono (by omega)
          rw [if_neg hneg, if_neg hneg']
          omega

/-- The zero below zero lies where the other one does. -/
private theorem isLess_negative_zero (exponent : Int) (x : Double) :
    isLess (.finite true 0 exponent) x = isLess (ofScaled 0) x ∧ isLess x (.finite true 0 exponent) = isLess x (ofScaled 0) := by
  have hzero : ofScaled 0 = .finite false 0 (-1074) := rfl
  rw [hzero]
  cases x with
  | finite => simp [isLess, scaled?]
  | infinite => exact ⟨rfl, rfl⟩
  | nan => exact ⟨rfl, rfl⟩

/-- A sum of finite numbers lies where the exact sum is rounded to. -/
private theorem isLess_add {x y : Double} {n m : Int} (hx : x.scaled? = some n) (hy : y.scaled? = some m) (z : Double) :
    isLess (add x y) z = isLess (ofScaled (n + m)) z ∧ isLess z (add x y) = isLess z (ofScaled (n + m)) := by
  unfold add
  split
  next => cases hx
  next => cases hy
  next => cases hx
  next => cases hx
  next => cases hy
  next exponent _ =>
    obtain rfl : n = 0 := by simpa [scaled?] using hx.symm
    obtain rfl : m = 0 := by simpa [scaled?] using hy.symm
    exact isLess_negative_zero exponent z
  next =>
    rw [hx, hy]
    exact ⟨rfl, rfl⟩

private theorem scaled?_neg {x : Double} {n : Int} (h : x.scaled? = some n) : x.neg.scaled? = some (-n) := by
  cases x with
  | infinite | nan => cases h
  | finite negative mantissa exponent =>
    simp only [scaled?, neg, Option.some.injEq] at h ⊢
    rw [← h]
    cases negative <;> simp

private theorem sub_infinite (negative : Bool) (x : Double) :
    sub (.infinite negative) x = .infinite negative ∨ sub (.infinite negative) x = .nan := by
  cases x with
  | finite => exact .inl rfl
  | nan => exact .inr rfl
  | infinite other =>
    simp only [sub, neg, add]
    split
    next => exact .inl rfl
    next => exact .inr rfl

private theorem sub_nan (x : Double) : sub x .nan = .nan := by
  cases x <;> rfl

private theorem isLess_nan (x : Double) : isLess x .nan = false := by
  cases x <;> rfl

/-- The later it is, the less is left up to a deadline. -/
theorem isLess_sub {deadline a b : Double} (h : isLess b a = false) : isLess (sub deadline a) (sub deadline b) = false := by
  cases deadline with
  | nan => rfl
  | infinite negative =>
    -- an infinite time is left, or it is not known how much
    rcases sub_infinite negative a with ha | ha <;> rcases sub_infinite negative b with hb | hb <;> rw [ha, hb]
    · exact Bool.and_not_self negative
    · rfl
    · rfl
    · rfl
  | finite dn dm de =>
    cases a with
    | nan => rw [sub_nan]; rfl
    | infinite negative =>
      cases negative with
      | true => exact isLess_infinite _
      | false =>
        cases b with
        | nan => rw [sub_nan]; exact isLess_nan _
        | infinite negative' =>
          obtain rfl : negative' = false := by simpa [isLess] using h
          exact isLess_infinite_negative _
        | finite => cases h
    | finite an am ae =>
      cases b with
      | nan => rw [sub_nan]; exact isLess_nan _
      | infinite negative =>
        obtain rfl : negative = false := h
        exact isLess_infinite_negative _
      | finite bn bm be =>
        obtain ⟨d, hd⟩ : ∃ d, (Double.finite dn dm de).scaled? = some d := ⟨_, rfl⟩
        obtain ⟨n, hn⟩ : ∃ n, (Double.finite an am ae).scaled? = some n := ⟨_, rfl⟩
        obtain ⟨m, hm⟩ : ∃ m, (Double.finite bn bm be).scaled? = some m := ⟨_, rfl⟩
        have hle : n ≤ m := by
          simpa only [isLess, hn, hm, Option.getD_some, decide_eq_false_iff_not, Int.not_lt] using h
        unfold sub
        rw [(isLess_add hd (scaled?_neg hn) _).1, (isLess_add hd (scaled?_neg hm) _).2]
        exact isLess_ofScaled (by omega)

end SiteReader.Double
