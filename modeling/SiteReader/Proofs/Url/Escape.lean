import SiteReader.Proofs.Address.Numeral
import SiteReader.Url.Escape

/-!
# Percent escapes

An escaped text is made of unreserved characters and of percent signs with two hexadecimal digits (`Spells`).  It stands for the
UTF-8 form of the text (`spells_escape`), and since it stands for no other bytes (`Spells.unique`), texts with the same escaped
form are the same (`escape_injective`).
-/

namespace SiteReader.Url

theorem lt_of_isUnreserved {c : Char} (h : isUnreserved c = true) : c.toNat < 128 := by
  simp only [isUnreserved, Text.isAsciiAlphanumeric, Text.isAsciiLetter, Text.isAsciiDigit, Bool.or_eq_true,
    Bool.and_eq_true, decide_eq_true_eq] at h
  rcases h with (((h | rfl) | rfl) | rfl) | rfl
  · omega
  · decide
  · decide
  · decide
  · decide

/-- A text of unreserved characters and of percent signs with two hexadecimal digits each, and the bytes that it stands for. -/
inductive Spells : List Char → List UInt8 → Prop
  | nil : Spells [] []
  | plain {c : Char} {cs : List Char} {bytes : List UInt8} (hc : isUnreserved c = true) (h : Spells cs bytes) :
      Spells (c :: cs) (UInt8.ofNat c.toNat :: bytes)
  | byte {a b : Char} {x y : Nat} {cs : List Char} {bytes : List UInt8} (ha : Ipv4.IsDigit 16 a x)
      (hb : Ipv4.IsDigit 16 b y) (h : Spells cs bytes) : Spells ('%' :: a :: b :: cs) (UInt8.ofNat (16 * x + y) :: bytes)

namespace Spells

variable {cs : List Char} {bytes : List UInt8}

theorem append {other : List Char} {rest : List UInt8} (h : Spells cs bytes) (ho : Spells other rest) :
    Spells (cs ++ other) (bytes ++ rest) := by
  induction h with
  | nil => exact ho
  | plain hc _ ih => exact .plain hc ih
  | byte ha hb _ ih => exact .byte ha hb ih

/-- A text stands for one sequence of bytes only. -/
theorem unique {other : List UInt8} (h : Spells cs bytes) (ho : Spells cs other) : bytes = other := by
  have hpercent : isUnreserved '%' = false := by decide
  induction h generalizing other with
  | nil =>
    cases ho
    rfl
  | plain hc _ ih =>
    cases ho with
    | plain _ ho => rw [ih ho]
    | byte => cases hpercent.symm.trans hc
  | byte ha hb _ ih =>
    cases ho with
    | plain hc => cases hpercent.symm.trans hc
    | byte ha' hb' ho =>
      obtain rfl := Option.some.inj (ha.hexValue.symm.trans ha'.hexValue)
      obtain rfl := Option.some.inj (hb.hexValue.symm.trans hb'.hexValue)
      rw [ih ho]

end Spells

/-! ### Escaped texts -/

theorem isDigit_upperHexDigit {n : Nat} (h : n < 16) : Ipv4.IsDigit 16 (upperHexDigit n) n := by
  have hdigits : ∀ n < 16, "0123456789ABCDEF".toList[n]? = some (upperHexDigit n) := by decide
  exact ⟨h, .inr (hdigits n h)⟩

theorem spells_escapeByte (b : UInt8) : Spells (escapeByte b) [b] := by
  have hlt : b.toNat < 256 := b.toNat_lt
  have hbyte : UInt8.ofNat (16 * (b.toNat / 16) + b.toNat % 16) = b := by
    rw [Nat.div_add_mod, UInt8.ofNat_toNat]
  have hspells : Spells (escapeByte b) [UInt8.ofNat (16 * (b.toNat / 16) + b.toNat % 16)] :=
    .byte (isDigit_upperHexDigit (by omega)) (isDigit_upperHexDigit (by omega)) .nil
  rwa [hbyte] at hspells

theorem spells_escapeChar (c : Char) : Spells (escapeChar c) (String.utf8EncodeChar c) := by
  unfold escapeChar
  split
  next hc =>
    have hencode : String.utf8EncodeChar c = [UInt8.ofNat c.toNat] := if_pos (Nat.le_of_lt_succ (lt_of_isUnreserved hc))
    rw [hencode]
    exact .plain hc .nil
  next =>
    induction String.utf8EncodeChar c with
    | nil => exact .nil
    | cons b rest ih => exact (spells_escapeByte b).append ih

theorem spells_escape (cs : List Char) : Spells (escape cs) (cs.flatMap String.utf8EncodeChar) := by
  induction cs with
  | nil => exact .nil
  | cons c rest ih => exact (spells_escapeChar c).append ih

theorem toByteArray_flatMap (text : String) : (text.toList.flatMap String.utf8EncodeChar).toByteArray = text.toUTF8 :=
  String.utf8Encode_toList

/-- An escaped text stands for the bytes of the text itself, from which it is read back. -/
theorem decodes_escape (text : String) :
    ∃ bytes, Spells (escape text.toList) bytes ∧ String.fromUTF8? bytes.toByteArray = some text := by
  refine ⟨_, spells_escape text.toList, ?_⟩
  rw [toByteArray_flatMap, fromUTF8?_toUTF8]

theorem escape_injective {u v : String} (h : escape u.toList = escape v.toList) : u = v := by
  obtain ⟨bytes, hspells, hu⟩ := decodes_escape u
  obtain ⟨other, hother, hv⟩ := decodes_escape v
  obtain rfl := hspells.unique (h ▸ hother)
  exact Option.some.inj (hu.symm.trans hv)

end SiteReader.Url
