import Mathlib.Tactic.ByContra
import SiteReader.Proofs.Json.Grammar

/-!
# Reading strings and numbers

The reader takes a string from its quotes with all of its units (`Pieces.readString_append`), and a number up to a text that
does not go on with it (`Number.readNumber_append`).  An integer is read if it has no more digits than the limit, which
depends on its value alone (`Whole.length_le_iff`).
-/

namespace SiteReader.Json

open Ipv4 (Digits IsDigit)

/-- What the reader makes of a text in a dialect: the value, or nothing when the text is not JSON or an integer is too
long. -/
def Reads {α : Type} (dialect : Dialect) (fits : Prop) (result : Option α) (value : α) : Prop :=
  result = some value ∧ fits ∨ result = none ∧ (dialect = .relaxed ∨ ¬fits)

/-! ### Strings -/

theorem hexUnit?_of_digits {a b c d : Char} {n : Nat} (h : Digits 16 [a, b, c, d] n) : hexUnit? a b c d = some n := by
  have hall := h.exists_digit
  obtain ⟨x, hx⟩ := hall a (by simp)
  obtain ⟨y, hy⟩ := hall b (by simp)
  obtain ⟨z, hz⟩ := hall c (by simp)
  obtain ⟨w, hw⟩ := hall d (by simp)
  have hv := h.digitsValue_eq
  simp only [Ipv4.digitsValue, List.foldl_cons, List.foldl_nil, hx.hexValue, hy.hexValue, hz.hexValue, hw.hexValue,
    Option.getD_some] at hv
  simp only [hexUnit?, hx.hexValue, hy.hexValue, hz.hexValue, hw.hexValue, Option.bind_eq_bind, Option.bind_some,
    Option.pure_def, Option.some.injEq]
  omega

theorem escaped?_of_mem {e c : Char} (h : (e, c) ∈ escapeLetters) : e ≠ 'u' ∧ escaped? e = some c := by
  have hall : ∀ p ∈ escapeLetters, p.1 ≠ 'u' ∧ escaped? p.1 = some p.2 := by decide
  exact hall _ h

theorem Escape.readUnits_append {n : Nat} {cs : List Char} (h : Escape n cs) (rest : List Char) :
    readUnits (cs ++ rest) = (readUnits rest).map fun (units, tail) => (n :: units, tail) := by
  cases h with
  | @letter e c h =>
    obtain ⟨hu, he⟩ := escaped?_of_mem h
    rw [List.cons_append, List.singleton_append, readUnits, he]
    · cases readUnits rest <;> rfl
    · intro _ _ _ _ _ hc
      exact absurd hc hu
  | @code n ds h hl =>
    obtain ⟨a, b, c, d, rfl⟩ : ∃ a b c d, ds = [a, b, c, d] := by
      match ds, hl with
      | [a, b, c, d], _ => exact ⟨a, b, c, d, rfl⟩
    show readUnits ('\\' :: 'u' :: a :: b :: c :: d :: rest) = _
    rw [readUnits, hexUnit?_of_digits h]
    cases readUnits rest <;> rfl

theorem Piece.readUnits_append {n : Nat} {cs : List Char} (h : Piece '"' n cs) (rest : List Char) :
    readUnits (cs ++ rest) = (readUnits rest).map fun (units, tail) => (n :: units, tail) := by
  cases h with
  | @raw _ c hc hq hs =>
    have hn : ¬(decide (c.toNat < 32) || decide (c = '\\')) = true := by simp [hs]; omega
    rw [List.singleton_append, readUnits]
    · rw [if_neg hn]
      cases readUnits rest <;> rfl
    · intro hc
      exact absurd hc hq
    · intro _ _ _ _ _ hc
      exact absurd hc hs
    · intro _ _ hc
      exact absurd hc hs
  | escape h => exact h.readUnits_append rest

theorem Pieces.readString_append {units : List Nat} {cs : List Char} (h : Pieces '"' units cs) (rest : List Char) :
    readString (cs ++ '"' :: rest) = some (joinUnits units, rest) := by
  have hu : readUnits (cs ++ '"' :: rest) = some (units, rest) := by
    induction h with
    | nil => rw [List.nil_append, readUnits]
    | cons h _ ih => rw [List.append_assoc, h.readUnits_append, ih]; rfl
  rw [readString, hu]
  rfl

/-! ### Units -/

theorem not_surrogate (c : Char) : c.toNat < 0xD800 ∨ 0xDFFF < c.toNat ∧ c.toNat < 0x110000 := c.valid

theorem unitChar_toNat (c : Char) : unitChar c.toNat = c := by
  have hc := not_surrogate c
  rw [unitChar, if_neg (by simp [isHighSurrogate, isLowSurrogate]; omega), Char.ofNat_toNat]

/-- A character that is its own unit is no half of a pair. -/
theorem joinUnits_char (c : Char) (units : List Nat) : joinUnits (c.toNat :: units) = c :: joinUnits units := by
  have hc := not_surrogate c
  cases units with
  | nil => simp only [joinUnits, unitChar_toNat]
  | cons low units => rw [joinUnits, if_neg (by simp [isHighSurrogate]; omega), unitChar_toNat]

theorem joinUnits_map (cs : List Char) : joinUnits (cs.map Char.toNat) = cs := by
  induction cs with
  | nil => rfl
  | cons c cs ih => rw [List.map_cons, joinUnits_char, ih]

/-- Characters that need no escape stand for themselves. -/
theorem Pieces.of_raw {quote : Char} {cs : List Char} (h : ∀ c ∈ cs, 32 ≤ c.toNat ∧ c ≠ quote ∧ c ≠ '\\') :
    Pieces quote (cs.map Char.toNat) cs := by
  induction cs with
  | nil => exact .nil
  | cons c cs ih =>
    obtain ⟨hlow, hq, hs⟩ := h c List.mem_cons_self
    show Pieces quote (c.toNat :: cs.map Char.toNat) ([c] ++ cs)
    exact .cons (.raw hlow hq hs) (ih fun d hd => h d (List.mem_cons_of_mem _ hd))

/-- A text that needs no escape stands in quotes of either kind as it is. -/
theorem StringText.of_raw {dialect : Dialect} {quote : Char} (hq : quote = '"' ∨ quote = '\'' ∧ dialect = .relaxed)
    {cs : List Char} (h : ∀ c ∈ cs, 32 ≤ c.toNat ∧ c ≠ quote ∧ c ≠ '\\') :
    StringText dialect (String.ofList cs) (quote :: (cs ++ [quote])) := by
  have hpieces := Pieces.of_raw h
  rcases hq with rfl | ⟨rfl, rfl⟩
  · have htext : StringText dialect _ _ := .double hpieces
    rwa [joinUnits_map] at htext
  · have htext := StringText.single hpieces
    rwa [joinUnits_map] at htext

/-- A character beyond the first plane comes back from its pair. -/
theorem joinUnits_pair {c : Char} (h : 0x10000 ≤ c.toNat) (units : List Nat) :
    joinUnits ((0xD800 + (c.toNat - 0x10000) / 1024) :: (0xDC00 + (c.toNat - 0x10000) % 1024) :: units) =
      c :: joinUnits units := by
  have hc := not_surrogate c
  have hcode : 0x10000 + (0xD800 + (c.toNat - 0x10000) / 1024 - 0xD800) * 1024 +
      (0xDC00 + (c.toNat - 0x10000) % 1024 - 0xDC00) = c.toNat := by omega
  rw [joinUnits, if_pos (by simp [isHighSurrogate, isLowSurrogate]; omega), hcode, Char.ofNat_toNat]

/-! ### Numbers -/

/-- A text that does not go on with a number. -/
def Ends (rest : List Char) : Prop :=
  ∀ c, rest.head? = some c → Text.isAsciiDigit c = false ∧ c ≠ '.' ∧ c ≠ 'e' ∧ c ≠ 'E'

theorem digits_append {ds rest : List Char} {n : Nat} (h : Digits 10 ds n)
    (hs : ∀ c, rest.head? = some c → Text.isAsciiDigit c = false) : digits (ds ++ rest) = (ds, rest) := by
  rw [digits, Text.takeWhile_append_of_stop h.isAsciiDigit hs, Text.dropWhile_append_of_stop h.isAsciiDigit hs]

theorem Whole.wholePart?_append {ds rest : List Char} {n : Nat} (h : Whole ds n)
    (hs : ∀ c, rest.head? = some c → Text.isAsciiDigit c = false) : wholePart? (ds ++ rest) = some (ds, rest) := by
  obtain ⟨c, tail, rfl⟩ := List.exists_cons_of_ne_nil h.ne_nil
  unfold wholePart?
  split
  next r heq =>
    obtain ⟨rfl, hr⟩ := List.cons.inj heq
    have hz := h.zero rfl
    rw [(List.cons.inj hz).2] at hr ⊢
    rw [← hr]
    rfl
  next =>
    rw [digits_append h.digits hs]

theorem Fraction.fraction_append {places? : Option (List Char)} {cs rest : List Char} (h : Fraction places? cs)
    (hs : ∀ c, rest.head? = some c → Text.isAsciiDigit c = false ∧ c ≠ '.') :
    fraction (cs ++ rest) = (places?, rest) := by
  cases h with
  | absent =>
    unfold fraction
    split
    next heq => exact absurd rfl (hs _ (by rw [← List.nil_append rest, heq]; rfl)).2
    next => rfl
  | @places places n h hne =>
    have hd := digits_append h fun c hc => (hs c hc).1
    show fraction ('.' :: (places ++ rest)) = _
    simp only [fraction, hd]

theorem Sign.sign_append {negative : Bool} {cs rest : List Char} (h : Sign negative cs)
    (hr : ∀ c, rest.head? = some c → c ≠ '-' ∧ c ≠ '+') : Numeral.sign (cs ++ rest) = (negative, rest) := by
  cases h with
  | absent =>
    rw [List.nil_append]
    unfold Numeral.sign
    split
    next => exact absurd rfl (hr _ rfl).1
    next => exact absurd rfl (hr _ rfl).2
    next => rfl
  | plus => rfl
  | minus => rfl

theorem isAsciiDigit_of_head? {ds rest : List Char} {n : Nat} (h : Digits 10 ds n) (hne : ds ≠ []) {c : Char}
    (hc : (ds ++ rest).head? = some c) : Text.isAsciiDigit c = true := by
  obtain ⟨d, tail, rfl⟩ := List.exists_cons_of_ne_nil hne
  obtain rfl := Option.some.inj hc
  exact h.isAsciiDigit _ List.mem_cons_self

theorem Exponent.exponent_append {power? : Option Int} {cs rest : List Char} (h : Exponent power? cs) (hs : Ends rest) :
    exponent (cs ++ rest) = (power?, rest) := by
  cases h with
  | absent =>
    rw [List.nil_append]
    unfold exponent
    split
    next e r =>
      have he := hs e rfl
      rw [if_neg (by simp [he])]
    next => rfl
  | @power e negative sign ds n he hsign h hne =>
    have hsign : Numeral.sign (sign ++ (ds ++ rest)) = (negative, ds ++ rest) := by
      apply hsign.sign_append
      intro c hc
      have := isAsciiDigit_of_head? h hne hc
      constructor <;> rintro rfl <;> exact absurd this (by decide)
    have hd := digits_append h fun c hc => (hs c hc).1
    show exponent (e :: ((sign ++ ds) ++ rest)) = _
    rw [List.append_assoc]
    simp only [exponent, hsign, hd]
    rw [if_pos (by simpa using he), h.value_eq]

theorem Exponent.head {power? : Option Int} {cs rest : List Char} (h : Exponent power? cs) (hs : Ends rest) :
    ∀ c, (cs ++ rest).head? = some c → Text.isAsciiDigit c = false ∧ c ≠ '.' := by
  intro c hc
  cases h with
  | absent => exact ⟨(hs c hc).1, (hs c hc).2.1⟩
  | power he =>
    obtain rfl := Option.some.inj hc
    rcases he with rfl | rfl <;> decide

theorem Fraction.head {places? : Option (List Char)} {cs rest : List Char} (h : Fraction places? cs)
    (hs : ∀ c, rest.head? = some c → Text.isAsciiDigit c = false) :
    ∀ c, (cs ++ rest).head? = some c → Text.isAsciiDigit c = false := by
  intro c hc
  cases h with
  | absent => exact hs c hc
  | places =>
    obtain rfl := Option.some.inj hc
    decide

theorem pow_le_of_digits {ds : List Char} {n : Nat} (h : Digits 10 ds n) (hz : ds.head? ≠ some '0') :
    ds ≠ [] → 10 ^ (ds.length - 1) ≤ n := by
  induction h with
  | nil => exact fun hne => absurd rfl hne
  | @snoc cs n c d h hd ih =>
    intro _
    rw [List.length_append, List.length_singleton, Nat.add_sub_cancel]
    cases cs with
    | nil =>
      have hd0 : d ≠ 0 := by
        rintro rfl
        rcases hd.2 with hc | hc
        · exact hz hc.symm
        · exact hz hc.symm
      simp
      omega
    | cons a cs =>
      have := ih hz (List.cons_ne_nil a cs)
      rw [List.length_cons, Nat.add_sub_cancel] at this
      rw [List.length_cons, Nat.pow_succ]
      omega

theorem Whole.length_le_iff {ds : List Char} {n k : Nat} (h : Whole ds n) (hk : 0 < k) :
    ds.length ≤ k ↔ n < 10 ^ k := by
  constructor
  · intro hl
    exact Nat.lt_of_lt_of_le h.digits.lt_pow (Nat.pow_le_pow_right (by omega) hl)
  · intro hn
    by_contra hl
    have hz : ds.head? ≠ some '0' := by
      intro hz
      rw [h.zero hz, List.length_singleton] at hl
      omega
    have hpow := pow_le_of_digits h.digits hz h.ne_nil
    have : 10 ^ k ≤ 10 ^ (ds.length - 1) := Nat.pow_le_pow_right (by omega) (by omega)
    omega

/-- Integers within the limit. -/
theorem fits_integer {negative : Bool} {n : Nat} :
    (Part.value (.integer (if negative then -Int.ofNat n else Int.ofNat n))).Fits ↔ n < 10 ^ Numeral.digitLimit := by
  have habs : (if negative then -Int.ofNat n else Int.ofNat n).natAbs = n := by
    cases negative <;> simp
  simp only [Part.Fits, Part.nodes, Tree.preorder, List.mem_singleton, Tree.integer.injEq]
  constructor
  · intro h
    have := h _ rfl
    rwa [habs] at this
  · rintro h _ rfl
    rwa [habs]

theorem readNumber_minus {negative : Bool} {cs : List Char} (h : cs.head? ≠ some '-') :
    readNumber (minus negative ++ cs) = readUnsigned negative cs := by
  cases negative with
  | true => rfl
  | false =>
    rw [minus, if_neg Bool.false_ne_true, List.nil_append]
    unfold readNumber
    split
    next => exact absurd rfl h
    next => rfl

theorem Whole.head {ds rest : List Char} {n : Nat} (h : Whole ds n) : (ds ++ rest).head? ≠ some '-' := by
  intro hc
  exact absurd (isAsciiDigit_of_head? h.digits h.ne_nil hc) (by decide)

theorem Number.readNumber_append {dialect : Dialect} {t : Tree} {cs rest : List Char} (h : Number t cs) (hs : Ends rest) :
    Reads dialect (Part.value t).Fits (readNumber (cs ++ rest)) (t, rest) := by
  cases h with
  | @integer negative ds n h =>
    have hw := h.wholePart?_append fun c hc => (hs c hc).1
    have hf := Fraction.absent.fraction_append fun c hc => ⟨(hs c hc).1, (hs c hc).2.1⟩
    have he := Exponent.absent.exponent_append hs
    rw [List.nil_append] at hf he
    rw [List.append_assoc, readNumber_minus h.head, readUnsigned, Reads, fits_integer,
      ← h.length_le_iff (k := Numeral.digitLimit) (by decide)]
    by_cases hl : ds.length ≤ Numeral.digitLimit
    · simp [hw, hf, he, Numeral.bounded?, hl, h.digits.value_eq]
    · simp [hw, hf, he, Numeral.bounded?, hl]
  | @double negative ds fraction exponent places? power? whole n h hf he hn hne =>
    have htail := he.head hs
    have hw := h.wholePart?_append (hf.head fun c hc => (htail c hc).1)
    have hf := hf.fraction_append htail
    have he := he.exponent_append hs
    have hfits : (Part.value (.double (.ofDecimal negative n (power?.getD 0 - Int.ofNat (places?.getD []).length)))).Fits := by
      intro m hm
      simp [Part.nodes, Tree.preorder] at hm
    refine .inl ⟨?_, hfits⟩
    rw [List.append_assoc, List.append_assoc, List.append_assoc, readNumber_minus h.head, readUnsigned]
    cases places? with
    | some places =>
      have hv : Numeral.value (ds ++ places) = n := hn.value_eq
      simp [hw, hf, he, hv]
    | none =>
      cases power? with
      | some power =>
        have hv : Numeral.value (ds ++ []) = n := hn.value_eq
        rw [List.append_nil] at hv
        simp [hw, hf, he, hv]
      | none => cases hne

end SiteReader.Json
