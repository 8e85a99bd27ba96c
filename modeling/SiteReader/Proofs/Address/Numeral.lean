import Mathlib.Algebra.Group.Nat.Defs
import SiteReader.Number.Numeral
import SiteReader.Proofs.Text.Basic
import SiteReader.Proofs.Text.Case
import SiteReader.Url.Host

/-!
# Spellings of numbers

A number is spelled in decimal without a zero at the start, in octal after a zero, or in hexadecimal after `0x`, with
letters of either case (`Numeral`).  Whatever its spelling, the number is read back (`part?_append`), and it makes a numeric
label for hosts (`Numeral.isNumericLabel`).
-/

namespace SiteReader.Ipv4

/-! ### Digits -/

/-- A character is the digit of value `d` in some base up to 16. -/
def IsDigit (base : Nat) (c : Char) (d : Nat) : Prop :=
  d < base ∧ ("0123456789abcdef".toList[d]? = some c ∨ "0123456789ABCDEF".toList[d]? = some c)

/-- A text of digits in some base, and its value. -/
inductive Digits (base : Nat) : List Char → Nat → Prop
  | nil : Digits base [] 0
  | snoc {cs : List Char} {n : Nat} {c : Char} {d : Nat} (h : Digits base cs n) (hd : IsDigit base c d) :
      Digits base (cs ++ [c]) (base * n + d)

private theorem IsDigit.forall {P : Nat → Char → Prop}
    (hl : ∀ i < 16, P i ("0123456789abcdef".toList.getD i 'g'))
    (hu : ∀ i < 16, P i ("0123456789ABCDEF".toList.getD i 'G')) {base : Nat} {c : Char} {d : Nat}
    (h : IsDigit base c d) : P d c := by
  rcases h.2 with hc | hc
  · have hlt := (List.getElem?_eq_some_iff.mp hc).1
    have hd := hl d hlt
    rwa [List.getD_eq_getElem?_getD, hc] at hd
  · have hlt := (List.getElem?_eq_some_iff.mp hc).1
    have hd := hu d hlt
    rwa [List.getD_eq_getElem?_getD, hc] at hd

theorem IsDigit.hexValue {base : Nat} {c : Char} {d : Nat} (h : IsDigit base c d) : Text.hexValue? c = some d :=
  IsDigit.forall (P := fun d c => Text.hexValue? c = some d) (by decide) (by decide) h

theorem IsDigit.lowerChar {base : Nat} {c : Char} {d : Nat} (h : IsDigit base c d) :
    IsDigit base (Text.lowerChar c) d := by
  refine ⟨h.1, .inl ?_⟩
  exact IsDigit.forall (P := fun d c => "0123456789abcdef".toList[d]? = some (Text.lowerChar c)) (by decide) (by decide) h

theorem IsDigit.isHexDigit {base : Nat} {c : Char} {d : Nat} (h : IsDigit base c d) : isHexDigit c = true := by
  rw [Ipv4.isHexDigit, h.hexValue]
  rfl

/-- The code of a digit tells its value. -/
theorem IsDigit.toNat_cases {base : Nat} {c : Char} {d : Nat} (h : IsDigit base c d) :
    c.toNat = d + 48 ∧ d < 10 ∨ c.toNat = d + 87 ∧ 10 ≤ d ∧ d < 16 ∨ c.toNat = d + 55 ∧ 10 ≤ d ∧ d < 16 :=
  IsDigit.forall (P := fun d c =>
    c.toNat = d + 48 ∧ d < 10 ∨ c.toNat = d + 87 ∧ 10 ≤ d ∧ d < 16 ∨ c.toNat = d + 55 ∧ 10 ≤ d ∧ d < 16)
    (by decide) (by decide) h

theorem IsDigit.isAsciiDigit {c : Char} {d : Nat} (h : IsDigit 10 c d) : Text.isAsciiDigit c = true := by
  have := h.1
  have hc : 48 ≤ c.toNat ∧ c.toNat ≤ 57 := by
    rcases h.toNat_cases with h | h | h <;> omega
  simp [Text.isAsciiDigit, hc]

theorem IsDigit.digitValue {c : Char} {d : Nat} (h : IsDigit 10 c d) : Text.digitValue? c = some d := by
  have hd := h.1
  have hc : c.toNat = d + 48 := by
    rcases h.toNat_cases with h | h | h <;> omega
  rw [Text.digitValue?, hc, if_pos (by omega), if_pos (by simp; omega)]
  simp

theorem IsDigit.isOctalDigit {c : Char} {d : Nat} (h : IsDigit 8 c d) : isOctalDigit c = true := by
  have := h.1
  have hc : 48 ≤ c.toNat ∧ c.toNat ≤ 55 := by
    rcases h.toNat_cases with h | h | h <;> omega
  simp [Ipv4.isOctalDigit, hc]

theorem IsDigit.mono {base greater : Nat} (hb : base ≤ greater) {c : Char} {d : Nat} (h : IsDigit base c d) :
    IsDigit greater c d :=
  ⟨Nat.lt_of_lt_of_le h.1 hb, h.2⟩

theorem isHexDigit_cases {c : Char} (h : isHexDigit c = true) : 48 ≤ c.toNat ∧ c.toNat ≤ 102 := by
  simp only [Ipv4.isHexDigit, Text.hexValue?, Bool.and_eq_true, decide_eq_true_eq] at h
  by_cases hc : 48 ≤ c.toNat ∧ c.toNat ≤ 102
  · exact hc
  · rw [if_neg (by omega), if_neg (by omega), if_neg (by omega)] at h
    cases h

/-! ### Texts of digits -/

namespace Digits

variable {base : Nat} {cs : List Char} {n : Nat}

theorem exists_digit (h : Digits base cs n) : ∀ c ∈ cs, ∃ d, IsDigit base c d := by
  induction h with
  | nil => simp
  | snoc _ hd ih =>
    intro c hc
    rcases List.mem_append.mp hc with hc | hc
    · exact ih c hc
    · obtain rfl := List.mem_singleton.mp hc
      exact ⟨_, hd⟩

theorem digitsValue_eq (h : Digits base cs n) : digitsValue base cs = n := by
  induction h with
  | nil => rfl
  | snoc _ hd ih =>
    rw [digitsValue] at ih ⊢
    rw [List.foldl_append, ih, List.foldl_cons, List.foldl_nil, hd.hexValue]
    rfl

theorem isAsciiDigit (h : Digits 10 cs n) : ∀ c ∈ cs, Text.isAsciiDigit c = true := by
  intro c hc
  obtain ⟨d, hd⟩ := h.exists_digit c hc
  exact hd.isAsciiDigit

theorem value_eq (h : Digits 10 cs n) : Numeral.value cs = n := by
  induction h with
  | nil => rfl
  | snoc _ hd ih =>
    rw [Numeral.value] at ih ⊢
    rw [List.foldl_append, ih, List.foldl_cons, List.foldl_nil, hd.digitValue]
    rfl

theorem lt_pow (h : Digits base cs n) : n < base ^ cs.length := by
  induction h with
  | nil => simp
  | @snoc cs n c d _ hd ih =>
    have hlt := hd.1
    rw [List.length_append, List.length_singleton, Nat.pow_succ, Nat.mul_comm (base ^ cs.length) base]
    calc base * n + d < base * n + base := by omega
      _ = base * (n + 1) := by rw [Nat.mul_succ]
      _ ≤ base * base ^ cs.length := Nat.mul_le_mul_left base ih

theorem lower (h : Digits base cs n) : Digits base (cs.map Text.lowerChar) n := by
  induction h with
  | nil => exact .nil
  | snoc _ hd ih =>
    rw [List.map_append]
    exact .snoc ih hd.lowerChar

theorem zero_cons (h : Digits base cs n) (hb : 0 < base) : Digits base ('0' :: cs) n := by
  induction h with
  | nil => exact .snoc (n := 0) .nil ⟨hb, .inl rfl⟩
  | snoc _ hd ih => exact .snoc ih hd

theorem takeNumber_append (h : Digits base cs n) {p : Char → Bool} (hp : ∀ c d, IsDigit base c d → p c = true)
    {rest : List Char} (hs : ∀ c, rest.head? = some c → p c = false) : takeNumber base p (cs ++ rest) = (n, rest) := by
  have hall : ∀ c ∈ cs, p c = true := by
    intro c hc
    obtain ⟨d, hd⟩ := h.exists_digit c hc
    exact hp c d hd
  rw [takeNumber, Text.takeWhile_append_of_stop hall hs, Text.dropWhile_append_of_stop hall hs, h.digitsValue_eq]

/-- The digits of a number as they are usually written. -/
theorem toDigits (h : 1 < base) (hle : base ≤ 16) (n : Nat) : Digits base (Nat.toDigits base n) n := by
  have hchar : ∀ d < 16, "0123456789abcdef".toList[d]? = some d.digitChar := by decide
  -- all digits but the last are those of the quotient by the base
  induction n using Nat.strongRecOn with
  | ind n ih =>
    by_cases hn : n < base
    · rw [Nat.toDigits_of_lt_base hn]
      have := (Digits.nil : Digits base [] 0).snoc ⟨hn, .inl (hchar n (by omega))⟩
      rwa [Nat.mul_zero, Nat.zero_add] at this
    · have hd : n % base < base := Nat.mod_lt _ (by omega)
      rw [Nat.toDigits_of_base_le h (by omega)]
      have := Digits.snoc (ih (n / base) (Nat.div_lt_self (by omega) h)) ⟨hd, .inl (hchar _ (by omega))⟩
      rwa [Nat.div_add_mod] at this

end Digits

/-! ### Decimal numbers -/

theorem isAsciiDigit_of_mem_decimal {n : Nat} {c : Char} (hc : c ∈ decimal n) : Text.isAsciiDigit c = true :=
  (Digits.toDigits (by decide) (by decide) n).isAsciiDigit c hc

theorem decimal_injective : Function.Injective decimal := by
  intro m n h
  have hm := (Digits.toDigits (show 1 < 10 by decide) (by decide) m).digitsValue_eq
  have hn := (Digits.toDigits (show 1 < 10 by decide) (by decide) n).digitsValue_eq
  calc m = digitsValue 10 (decimal m) := hm.symm
    _ = digitsValue 10 (decimal n) := by rw [h]
    _ = n := hn

/-! ### Numbers -/

/-- A spelling of a number in decimal, octal or hexadecimal. -/
inductive Numeral : List Char → Nat → Prop
  | decimal {cs : List Char} {n : Nat} (h : Digits 10 cs n) (hne : cs ≠ []) (hz : cs.head? ≠ some '0') : Numeral cs n
  | octal {cs : List Char} {n : Nat} (h : Digits 8 cs n) : Numeral ('0' :: cs) n
  | hexadecimal {cs : List Char} {n : Nat} (h : Digits 16 cs n) (hne : cs ≠ []) {x : Char} (hx : x = 'x' ∨ x = 'X') :
      Numeral ('0' :: x :: cs) n

namespace Numeral

variable {cs : List Char} {n : Nat}

theorem ne_nil (h : Numeral cs n) : cs ≠ [] := by
  cases h with
  | decimal _ hne => exact hne
  | octal => simp
  | hexadecimal => simp

theorem mem_cases (h : Numeral cs n) {c : Char} (hc : c ∈ cs) : isHexDigit c = true ∨ c = 'x' ∨ c = 'X' := by
  cases h with
  | decimal h =>
    obtain ⟨d, hd⟩ := h.exists_digit c hc
    exact .inl hd.isHexDigit
  | octal h =>
    rcases List.mem_cons.mp hc with rfl | hc
    · exact .inl rfl
    · obtain ⟨d, hd⟩ := h.exists_digit c hc
      exact .inl hd.isHexDigit
  | hexadecimal h _ hx =>
    rcases List.mem_cons.mp hc with rfl | hc
    · exact .inl rfl
    · rcases List.mem_cons.mp hc with rfl | hc
      · exact .inr hx
      · obtain ⟨d, hd⟩ := h.exists_digit c hc
        exact .inl hd.isHexDigit

theorem lower (h : Numeral cs n) : Numeral (cs.map Text.lowerChar) n := by
  cases h with
  | decimal h hne hz =>
    refine .decimal h.lower (by simpa using hne) ?_
    obtain ⟨c, rest, rfl⟩ := List.exists_cons_of_ne_nil hne
    obtain ⟨d, hd⟩ := h.exists_digit c List.mem_cons_self
    intro hc
    have hzero : Text.lowerChar c = '0' := by simpa using hc
    have hlt : c.toNat < 128 := by
      rcases hd.toNat_cases with h | h | h <;> omega
    exact hz (by rw [Text.eq_of_lowerChar_eq hlt (by decide) hzero]; rfl)
  | octal h => exact .octal h.lower
  | hexadecimal h hne hx =>
    refine .hexadecimal h.lower (by simpa using hne) ?_
    rcases hx with rfl | rfl
    · exact .inl rfl
    · exact .inl rfl

/-- What comes after the zero of an octal number is a digit or a point, never an `x`. -/
theorem not_x_of_octal {ds rest tail : List Char} (h : Digits 8 ds n) (hs : ∀ c, rest.head? = some c → c = '.') {x : Char}
    (heq : ds ++ rest = x :: tail) : (x = 'x' || x = 'X') = false := by
  have hx : x.toNat < 58 := by
    cases ds with
    | nil =>
      rw [List.nil_append] at heq
      rw [hs x (by rw [heq]; rfl)]
      decide
    | cons c ds =>
      obtain ⟨rfl, -⟩ := List.cons.inj heq
      obtain ⟨d, hd⟩ := h.exists_digit c List.mem_cons_self
      have := hd.1
      rcases hd.toNat_cases with h | h | h <;> omega
  have hne : x ≠ 'x' ∧ x ≠ 'X' := by
    constructor
    · rintro rfl
      exact absurd hx (by decide)
    · rintro rfl
      exact absurd hx (by decide)
  simp [hne]

/-- A number at the end of a text or before a point is read from any of its spellings. -/
theorem part?_append (h : Numeral cs n) {rest : List Char} (hs : ∀ c, rest.head? = some c → c = '.') :
    part? (cs ++ rest) = some (n, rest) := by
  have hstop : ∀ (p : Char → Bool), p '.' = false → ∀ c, rest.head? = some c → p c = false := by
    intro p hp c hc
    rw [hs c hc]
    exact hp
  cases h with
  | decimal h hne hz =>
    obtain ⟨c, cs, rfl⟩ := List.exists_cons_of_ne_nil hne
    have hc : c ≠ '0' := fun he => hz (by rw [he]; rfl)
    obtain ⟨d, hd⟩ := h.exists_digit c List.mem_cons_self
    have hn := h.takeNumber_append (fun _ _ => IsDigit.isAsciiDigit) (hstop _ (by decide))
    rw [List.cons_append] at hn ⊢
    unfold part?
    split
    next heq => exact absurd (List.cons.inj heq).1 hc
    next heq =>
      obtain ⟨rfl, rfl⟩ := List.cons.inj heq
      rw [if_neg hc, if_pos hd.isAsciiDigit, hn]
    next heq => cases heq
  | @octal ds _ h =>
    have hn := (h.zero_cons (by decide)).takeNumber_append (fun _ _ => IsDigit.isOctalDigit) (hstop _ (by decide))
    rw [List.cons_append] at hn ⊢
    unfold part?
    split
    next x y r heq =>
      have hx := not_x_of_octal h hs (List.cons.inj heq).2
      rw [hx, Bool.false_and, if_neg Bool.false_ne_true, ← heq, hn]
    next heq =>
      obtain ⟨rfl, rfl⟩ := List.cons.inj heq
      rw [if_pos rfl, hn]
    next heq => cases heq
  | hexadecimal h hne hx =>
    obtain ⟨c, cs, rfl⟩ := List.exists_cons_of_ne_nil hne
    obtain ⟨d, hd⟩ := h.exists_digit c List.mem_cons_self
    have hn := h.takeNumber_append (fun _ _ => IsDigit.isHexDigit) (hstop _ (by decide))
    rw [List.cons_append] at hn
    have hxb : ∀ x, x = 'x' ∨ x = 'X' → (x = 'x' || x = 'X') = true := by simp
    rw [List.cons_append, List.cons_append, List.cons_append, part?, hxb _ hx, hd.isHexDigit, hn]
    rfl

/-- A spelling in lower case makes a numeric label. -/
theorem isNumericLabel (h : Numeral cs n) (hl : cs.map Text.lowerChar = cs) : Host.isNumericLabel cs = true := by
  have hline : Text.dropTail? ['\n'] cs = none := by
    refine if_neg fun hs => ?_
    have hm : '\n' ∈ cs := (List.isSuffixOf_iff_suffix.mp hs).subset List.mem_cons_self
    exact absurd (h.mem_cases hm) (by decide)
  rw [Host.isNumericLabel, hline, Option.getD_none]
  have hplain : ∀ {ds : List Char}, ds ≠ [] → (∀ c ∈ ds, Text.isAsciiDigit c = true) →
      (!ds.isEmpty && ds.all Text.isAsciiDigit) = true := by
    intro ds hne hall
    rw [List.all_eq_true.mpr hall]
    simpa using hne
  cases h with
  | decimal h hne hz =>
    split
    next => exact absurd rfl hz
    next =>
      refine hplain hne fun c hc => ?_
      obtain ⟨d, hd⟩ := h.exists_digit c hc
      exact hd.isAsciiDigit
  | @octal ds _ h =>
    have hall : ∀ c ∈ '0' :: ds, Text.isAsciiDigit c = true := by
      intro c hc
      obtain ⟨d, hd⟩ := (h.zero_cons (by decide)).exists_digit c hc
      exact (hd.mono (show 8 ≤ 10 by decide)).isAsciiDigit
    split
    next heq =>
      rw [heq] at hall
      exact absurd (hall 'x' (by simp)) (by decide)
    next => exact hplain (by simp) hall
  | hexadecimal h _ hx =>
    rcases hx with rfl | rfl
    · refine List.all_eq_true.mpr fun c hc => ?_
      obtain ⟨d, hd⟩ := h.exists_digit c hc
      -- a capital letter would have been lowered
      have hlow := Text.lowerChar_eq_of_mem hl (List.mem_cons_of_mem _ (List.mem_cons_of_mem _ hc))
      have hcases := hd.toNat_cases
      have hcapital := Text.not_capital (by omega) hlow
      have hcode : 48 ≤ c.toNat ∧ c.toNat ≤ 57 ∨ 97 ≤ c.toNat ∧ c.toNat ≤ 102 := by omega
      simpa [Text.isAsciiDigit] using hcode
    · simp [Text.lowerChar] at hl

end Numeral

end SiteReader.Ipv4
