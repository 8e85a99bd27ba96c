import SiteReader.Proofs.Address.Numeral
import SiteReader.Proofs.Number.Integer
import SiteReader.Proofs.Text.Trim

/-!
# Whole numbers as people write them

Digits of any script with an optional minus before them are read as an integer, unless they are too many (`integer?_signed`),
and as the floating-point number nearest to it (`decimal?_signed`); so is the decimal text of an integer (`integer?_ofInt`,
`decimal?_ofInt`).
-/

namespace SiteReader.Numeral

/-! ### Digits of any script -/

theorem digitValue?_lt {c : Char} {d : Nat} (h : Text.digitValue? c = some d) : d < 10 := by
  unfold Text.digitValue? at h
  dsimp only at h
  split at h
  · split at h
    next hc =>
      obtain rfl := Option.some.inj h
      simp only [Bool.and_eq_true, decide_eq_true_eq] at hc
      omega
    next => cases h
  · obtain ⟨z, hz, rfl⟩ := Option.map_eq_some_iff.mp h
    have hrange := List.find?_some hz
    simp only [Bool.and_eq_true, decide_eq_true_eq] at hrange
    omega

theorem asciiDigit_ofNat : ∀ d < 10,
    Text.isAsciiDigit (Char.ofNat (48 + d)) = true ∧ Text.digitValue? (Char.ofNat (48 + d)) = some d := by
  decide

theorem isAscii_of_isAsciiDigit {c : Char} (h : Text.isAsciiDigit c = true) : Text.isAscii c = true := by
  simp only [Text.isAsciiDigit, Text.isAscii, Bool.and_eq_true, decide_eq_true_eq] at h ⊢
  omega

/-- In ASCII a digit keeps its value. -/
theorem toAscii_digit {c : Char} (h : Text.isDecimal c = true) :
    ∃ d, toAscii [c] = [d] ∧ Text.isAsciiDigit d = true ∧ Text.digitValue? d = Text.digitValue? c := by
  obtain ⟨value, hvalue⟩ := Option.isSome_iff_exists.mp h
  by_cases hascii : Text.isAscii c = true
  · refine ⟨c, by simp [toAscii, hascii], ?_, rfl⟩
    have hlt : c.toNat < 128 := by simpa [Text.isAscii] using hascii
    unfold Text.digitValue? at hvalue
    simp only [if_pos hlt] at hvalue
    split at hvalue
    next hdigit => exact hdigit
    next => cases hvalue
  · have hblank : Text.isBlank c = false := by
      rw [← Bool.not_eq_true]
      intro hb
      rw [Text.isDecimal_of_isBlank hb] at h
      cases h
    obtain ⟨hdigit, hsame⟩ := asciiDigit_ofNat value (digitValue?_lt hvalue)
    exact ⟨Char.ofNat (48 + value), by simp [toAscii, hascii, hblank, hvalue], hdigit, hsame.trans hvalue.symm⟩

theorem toAscii_append (a b : List Char) : toAscii (a ++ b) = toAscii a ++ toAscii b :=
  List.map_append

theorem value_toAscii {digits : List Char} (h : ∀ c ∈ digits, Text.isDecimal c = true) :
    (∀ c ∈ toAscii digits, Text.isAsciiDigit c = true) ∧ value (toAscii digits) = value digits ∧
      (toAscii digits).length = digits.length := by
  have hfold (start : Nat) : (∀ c ∈ toAscii digits, Text.isAsciiDigit c = true) ∧
      (toAscii digits).foldl (fun n c => 10 * n + (Text.digitValue? c).getD 0) start =
        digits.foldl (fun n c => 10 * n + (Text.digitValue? c).getD 0) start := by
    induction digits generalizing start with
    | nil => exact ⟨List.forall_mem_nil _, rfl⟩
    | cons c rest ih =>
      obtain ⟨d, hd, hdigit, hsame⟩ := toAscii_digit (h c List.mem_cons_self)
      obtain ⟨hall, hrest⟩ := ih (fun c hc => h c (List.mem_cons_of_mem _ hc)) (10 * start + (Text.digitValue? d).getD 0)
      rw [show toAscii (c :: rest) = d :: toAscii rest by rw [← List.singleton_append, toAscii_append, hd]; rfl]
      refine ⟨List.forall_mem_cons.mpr ⟨hdigit, hall⟩, ?_⟩
      rw [List.foldl_cons, List.foldl_cons, hrest, hsame]
  exact ⟨(hfold 0).1, (hfold 0).2, List.length_map _⟩

/-! ### Preparing the text -/

theorem dropLowLines?_of_not_mem {previous : Char} (hp : previous ≠ '_') {cs : List Char} (h : '_' ∉ cs) :
    dropLowLines? previous cs = some cs := by
  induction cs generalizing previous with
  | nil => rw [dropLowLines?, if_neg hp]
  | cons c rest ih =>
    rw [List.mem_cons, not_or] at h
    rw [dropLowLines?, if_neg (Ne.symm h.1), if_neg (by simp [hp]), ih (Ne.symm h.1) h.2]
    rfl

/-- Digits with a sign are left as they are, except that they become those of ASCII. -/
theorem prepared_signed {sign digits : List Char} (hs : sign = [] ∨ sign = ['-'])
    (hd : ∀ c ∈ digits, Text.isDecimal c = true) :
    dropLowLines? ' ' (prepared (sign ++ digits)) = some (sign ++ toAscii digits) := by
  obtain ⟨hdigits, -, -⟩ := value_toAscii hd
  have hsign : toAscii sign = sign := by rcases hs with rfl | rfl <;> rfl
  have hplain : ∀ c ∈ sign ++ toAscii digits, Text.isAsciiBlank c = false ∧ c ≠ '_' := by
    intro c hc
    rcases List.mem_append.mp hc with hc | hc
    · rcases hs with rfl | rfl
      · cases hc
      · obtain rfl := List.mem_singleton.mp hc
        decide
    · have hdigit := hdigits c hc
      simp only [Text.isAsciiDigit, Bool.and_eq_true, decide_eq_true_eq] at hdigit
      refine ⟨?_, ?_⟩
      · simp [Text.isAsciiBlank]
        omega
      · rintro rfl
        exact absurd hdigit (by decide)
  have htrim : prepared (sign ++ digits) = sign ++ toAscii digits := by
    rw [prepared, toAscii_append, hsign, Text.trimBoth]
    rw [show (sign ++ toAscii digits).dropWhile Text.isAsciiBlank = sign ++ toAscii digits from ?_]
    · exact Text.trimRight_of_last fun c hc => (hplain c (List.mem_of_getLast? hc)).1
    · exact List.dropWhile_eq_self_iff.mpr fun hl => by simpa using (hplain _ (List.getElem_mem hl)).1
  rw [htrim]
  exact dropLowLines?_of_not_mem (by decide) fun hm => (hplain '_' hm).2 rfl

theorem sign_signed {sign digits : List Char} (hs : sign = [] ∨ sign = ['-'])
    (hd : ∀ c ∈ digits, Text.isAsciiDigit c = true) :
    Numeral.sign (sign ++ digits) = (decide (sign = ['-']), digits) := by
  rcases hs with rfl | rfl
  · rw [List.nil_append]
    unfold Numeral.sign
    split
    next => exact absurd (hd '-' List.mem_cons_self) (by decide)
    next => exact absurd (hd '+' List.mem_cons_self) (by decide)
    next => rfl
  · rfl

/-! ### Reading -/

/-- Digits with a sign are read as an integer, unless they are too many. -/
theorem integer?_signed {sign digits : List Char} (hs : sign = [] ∨ sign = ['-'])
    (hd : ∀ c ∈ digits, Text.isDecimal c = true) (hne : digits ≠ []) :
    integer? (sign ++ digits) =
      (bounded? digits).map fun n => if sign = ['-'] then -(Int.ofNat n) else Int.ofNat n := by
  obtain ⟨hdigits, hvalue, hlength⟩ := value_toAscii hd
  have hsome : ((toAscii digits).isEmpty || !(toAscii digits).all Text.isAsciiDigit) = false := by
    have hempty : (toAscii digits).isEmpty = false := by
      rw [List.isEmpty_eq_false_iff, ← List.length_pos_iff, hlength, List.length_pos_iff]
      exact hne
    rw [hempty, List.all_eq_true.mpr hdigits]
    rfl
  unfold integer?
  rw [prepared_signed hs hd]
  simp only [Option.bind_eq_bind, Option.bind_some, sign_signed hs hdigits, hsome, bounded?, hvalue, hlength]
  by_cases hlen : digits.length ≤ digitLimit <;> simp [hlen]

theorem map_toLower_digits {cs : List Char} (h : ∀ c ∈ cs, Text.isAsciiDigit c = true) : cs.map Char.toLower = cs := by
  have hdigit : ∀ c ∈ cs, c.toLower = id c := by
    intro c hc
    have hascii : c.toNat < 128 := by simpa [Text.isAscii] using isAscii_of_isAsciiDigit (h c hc)
    exact Text.forall_ascii (P := fun c => Text.isAsciiDigit c = true → c.toLower = c) (by decide) hascii (h c hc)
  rw [List.map_congr_left hdigit, List.map_id]

theorem ofDecimal_zero (negative : Bool) (n : Nat) : Double.ofDecimal negative n 0 = Double.ofRatio negative n 1 := by
  unfold Double.ofDecimal
  by_cases hn : n = 0
  · simp [hn, Double.ofRatio]
  · have hmagnitude : ¬ (Int.ofNat (n.log2 / 3) + 0 < -400) := by
      rw [Int.ofNat_eq_natCast]
      omega
    simp only [if_neg hn, if_neg hmagnitude]
    exact congrArg (Double.ofRatio negative · 1) (Nat.mul_one n)

theorem unsignedDecimal?_digits (negative : Bool) {digits : List Char}
    (hd : ∀ c ∈ digits, Text.isAsciiDigit c = true) (hne : digits ≠ []) :
    unsignedDecimal? negative digits = some (Double.ofRatio negative (value digits) 1) := by
  have hempty : digits.isEmpty = false := List.isEmpty_eq_false_iff.mpr hne
  unfold unsignedDecimal?
  simp only [Text.takeWhile_of_all hd, Text.dropWhile_of_all hd, hempty, Bool.false_and, Bool.false_eq_true, ↓reduceIte,
    exponent?, Option.bind_eq_bind, Option.bind_some, List.append_nil]
  exact congrArg some (ofDecimal_zero negative (value digits))

/-- Digits with a sign are read as the nearest floating-point number. -/
theorem decimal?_signed {sign digits : List Char} (hs : sign = [] ∨ sign = ['-'])
    (hd : ∀ c ∈ digits, Text.isDecimal c = true) (hne : digits ≠ []) :
    decimal? (sign ++ digits) = some (Double.ofRatio (decide (sign = ['-'])) (value digits) 1) := by
  obtain ⟨hdigits, hvalue, hlength⟩ := value_toAscii hd
  have hsome : toAscii digits ≠ [] := by
    rw [← List.length_pos_iff, hlength, List.length_pos_iff]
    exact hne
  have hlower : (toAscii digits).map Char.toLower = toAscii digits := map_toLower_digits hdigits
  -- no digit is a letter of an infinity or of the not-a-number
  have hword {word : List Char} {c : Char} (hc : c ∈ word) (hletter : Text.isAsciiDigit c = false) :
      toAscii digits ≠ word := by
    rintro rfl
    rw [hdigits c hc] at hletter
    cases hletter
  unfold decimal?
  rw [prepared_signed hs hd]
  simp only [Option.bind_eq_bind, Option.bind_some, sign_signed hs hdigits, hlower]
  rw [if_neg, if_neg, unsignedDecimal?_digits _ hdigits hsome, hvalue]
  · exact hword (c := 'n') (by decide) (by decide)
  · rw [Bool.or_eq_true, decide_eq_true_eq, decide_eq_true_eq, not_or]
    exact ⟨hword (c := 'i') (by decide) (by decide), hword (c := 'i') (by decide) (by decide)⟩

/-! ### The decimal text of an integer -/

theorem isDecimal_of_mem_toDigits {n : Nat} : ∀ c ∈ Nat.toDigits 10 n, Text.isDecimal c = true := by
  intro c hc
  obtain ⟨d, hd⟩ := (Ipv4.Digits.toDigits (by decide) (by decide) n).exists_digit c hc
  rw [Text.isDecimal, hd.digitValue]
  rfl

theorem value_toDigits (n : Nat) : value (Nat.toDigits 10 n) = n :=
  (Ipv4.Digits.toDigits (by decide) (by decide) n).value_eq

theorem ofInt_eq (n : Int) :
    ∃ sign, (sign = [] ∨ sign = ['-']) ∧ (sign = ['-'] ↔ n < 0) ∧ ofInt n = sign ++ Nat.toDigits 10 n.natAbs := by
  unfold ofInt
  split
  next hn => exact ⟨['-'], .inr rfl, iff_of_true rfl hn, rfl⟩
  next hn => exact ⟨[], .inl rfl, iff_of_false nofun hn, rfl⟩

/-- The decimal text of an integer is read as that integer, unless its digits are too many. -/
theorem integer?_ofInt (n : Int) : integer? (ofInt n) = if n.natAbs < 10 ^ digitLimit then some n else none := by
  obtain ⟨sign, hs, hneg, htext⟩ := ofInt_eq n
  have hlength : (Nat.toDigits 10 n.natAbs).length ≤ digitLimit ↔ n.natAbs < 10 ^ digitLimit :=
    Nat.length_toDigits_le_iff (by decide) (Nat.zero_lt_succ _)
  have hvalue : (if n < 0 then -(n.natAbs : Int) else n.natAbs) = n := by split <;> omega
  rw [htext, integer?_signed hs isDecimal_of_mem_toDigits Nat.toDigits_ne_nil, bounded?, value_toDigits]
  simp only [hlength, hneg, apply_ite (Option.map _), Option.map_some, Option.map_none, Int.ofNat_eq_natCast, hvalue]

/-- The decimal text of an integer is read as the floating-point number nearest to it. -/
theorem decimal?_ofInt (n : Int) : decimal? (ofInt n) = some (Double.ofRatio (n < 0) n.natAbs 1) := by
  obtain ⟨sign, hs, hneg, htext⟩ := ofInt_eq n
  rw [htext, decimal?_signed hs isDecimal_of_mem_toDigits Nat.toDigits_ne_nil, value_toDigits]
  simp only [hneg]

end SiteReader.Numeral
