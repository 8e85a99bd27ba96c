import Mathlib.Data.List.TakeWhile
import SiteReader.Proofs.Text.Basic
import SiteReader.Text.Class

/-!
# Blanks around texts

Trimming takes off the blanks that stand around a text and no more of it (`trim_append`); a text without blanks at its ends
stays as it is (`trim_of_edges`).  No blank is a digit (`isDecimal_of_isBlank`).
-/

namespace SiteReader.Text

/-- The code points of blanks. -/
def blankCodes : List Nat :=
  [9, 10, 11, 12, 13, 28, 29, 30, 31, 32, 0x85, 0xA0, 0x1680, 0x2000, 0x2001, 0x2002, 0x2003, 0x2004, 0x2005, 0x2006, 0x2007,
    0x2008, 0x2009, 0x200A, 0x2028, 0x2029, 0x202F, 0x205F, 0x3000]

/-- What holds of the few blanks one by one holds of every blank. -/
theorem of_isBlank {P : Char → Prop} (hall : ∀ n ∈ blankCodes, P (Char.ofNat n)) {c : Char}
    (h : isBlank c = true) : P c := by
  have hmem := hall c.toNat
  rw [Char.ofNat_toNat] at hmem
  apply hmem
  simp only [isBlank, Bool.or_eq_true, Bool.and_eq_true, decide_eq_true_eq, beq_iff_eq] at h
  simp only [blankCodes, List.mem_cons, List.not_mem_nil, or_false]
  omega

theorem isDecimal_of_isBlank {c : Char} (h : isBlank c = true) : isDecimal c = false :=
  of_isBlank (P := fun c => isDecimal c = false) (by decide +kernel) h

/-- White space of any length. -/
def Blanks (cs : List Char) : Prop :=
  ∀ c ∈ cs, isBlank c = true

instance (cs : List Char) : Decidable (Blanks cs) :=
  decidable_of_iff (cs.all isBlank = true) List.all_eq_true

theorem Blanks.append {a b : List Char} (ha : Blanks a) (hb : Blanks b) : Blanks (a ++ b) := by
  intro c hc
  rcases List.mem_append.mp hc with hc | hc
  · exact ha c hc
  · exact hb c hc

theorem trimStart_append {blanks rest : List Char} (h : Blanks blanks)
    (hs : ∀ c, rest.head? = some c → isBlank c = false) : trimStart (blanks ++ rest) = rest :=
  dropWhile_append_of_stop h hs

theorem trimStart_append_of_stop (cs : List Char) {tail : List Char}
    (h : ∀ c, tail.head? = some c → isBlank c = false) : trimStart (cs ++ tail) = trimStart cs ++ tail := by
  unfold trimStart
  rw [List.dropWhile_append]
  split
  next hnil =>
    rw [List.isEmpty_iff.mp hnil]
    exact dropWhile_append_of_stop (List.forall_mem_nil _) h
  next => rfl

theorem eq_append_trimStart (cs : List Char) : ∃ blanks, Blanks blanks ∧ cs = blanks ++ trimStart cs :=
  ⟨cs.takeWhile isBlank, fun _ hc => List.mem_takeWhile_imp hc, List.takeWhile_append_dropWhile.symm⟩

theorem eq_append_trim (cs : List Char) :
    ∃ before after, Blanks before ∧ Blanks after ∧ cs = before ++ (trim cs ++ after) := by
  obtain ⟨before, hb, hcs⟩ := eq_append_trimStart cs
  obtain ⟨after, ha, htrim⟩ := eq_trimRight_append isBlank (trimStart cs)
  refine ⟨before, after, hb, ha, ?_⟩
  rw [htrim] at hcs
  exact hcs

theorem trim_isInfix (cs : List Char) : trim cs <:+: cs := by
  obtain ⟨before, after, -, -, hcs⟩ := eq_append_trim cs
  exact ⟨before, after, by rw [List.append_assoc, ← hcs]⟩

theorem trimEnd_cons_of_blanks {c : Char} (hc : isBlank c = false) {rest : List Char} (h : Blanks rest) :
    trimEnd (c :: rest) = [c] := by
  have hend := trimRight_append_cons [] hc rest
  rwa [trimRight_of_all h] at hend

theorem trimEnd_cons {c : Char} {rest : List Char} (h : ¬ Blanks rest) : trimEnd (c :: rest) = c :: trimEnd rest := by
  obtain ⟨after, ha, hkept⟩ := eq_trimRight_append isBlank rest
  rw [trimEnd, trimRight]
  split
  next hnil =>
    rw [hnil] at hkept
    exact absurd (hkept ▸ ha) h
  next => rfl

/-- A text that neither starts nor ends with a blank. -/
structure Edged (cs : List Char) : Prop where
  ne_nil : cs ≠ []
  head : ∀ c, cs.head? = some c → isBlank c = false
  last : ∀ c, cs.getLast? = some c → isBlank c = false

theorem Edged.of_forall {cs : List Char} (hne : cs ≠ []) (h : ∀ c ∈ cs, isBlank c = false) : Edged cs where
  ne_nil := hne
  head c hc := h c (List.mem_of_head? hc)
  last c hc := h c (List.mem_of_getLast? hc)

theorem Edged.of_ends {cs : List Char} {first last : Char} (hf : cs.head? = some first) (hl : cs.getLast? = some last)
    (hfirst : isBlank first = false) (hlast : isBlank last = false) : Edged cs where
  ne_nil := by
    rintro rfl
    cases hf
  head c hc := by
    rw [hf] at hc
    exact Option.some.inj hc ▸ hfirst
  last c hc := by
    rw [hl] at hc
    exact Option.some.inj hc ▸ hlast

theorem Edged.append {a b : List Char} (ha : Edged a) (hb : Edged b) : Edged (a ++ b) where
  ne_nil := List.append_ne_nil_of_left_ne_nil ha.ne_nil b
  head c hc := by
    obtain ⟨d, rest, rfl⟩ := List.exists_cons_of_ne_nil ha.ne_nil
    exact ha.head c hc
  last c hc := by
    rw [List.getLast?_append, List.getLast?_eq_some_getLast hb.ne_nil] at hc
    exact hb.last c (List.getLast?_eq_some_getLast hb.ne_nil ▸ hc)

theorem trim_append {before cs after : List Char} (hb : Blanks before) (h : Edged cs) (ha : Blanks after) :
    trim (before ++ (cs ++ after)) = cs := by
  have hs : ∀ c, (cs ++ after).head? = some c → isBlank c = false := by
    intro c hc
    obtain ⟨d, rest, rfl⟩ := List.exists_cons_of_ne_nil h.ne_nil
    exact h.head c hc
  rw [trim, trimBoth, dropWhile_append_of_stop hb hs]
  exact trimRight_append h.last ha

theorem trim_of_edges {cs : List Char} (h : Edged cs) : trim cs = cs := by
  have := trim_append (List.forall_mem_nil _) h (List.forall_mem_nil _)
  rwa [List.nil_append, List.append_nil] at this

/-- A text that stays at its end when it is trimmed, and at its start when something else precedes it. -/
theorem trim_append_of_edged (cs : List Char) {tail : List Char} (h : Edged tail) :
    trim (cs ++ tail) = trimStart cs ++ tail := by
  have hlast : ∀ c, (trimStart cs ++ tail).getLast? = some c → isBlank c = false := by
    intro c hc
    refine h.last c ?_
    rw [List.getLast?_append, List.getLast?_eq_some_getLast h.ne_nil] at hc
    rw [List.getLast?_eq_some_getLast h.ne_nil]
    exact hc
  show trimRight isBlank (trimStart (cs ++ tail)) = _
  rw [trimStart_append_of_stop cs h.head]
  exact trimRight_of_last hlast

theorem trim_append_left {blanks : List Char} (h : Blanks blanks) (cs : List Char) : trim (blanks ++ cs) = trim cs := by
  rw [trim, trimBoth, List.dropWhile_append_of_pos h]
  rfl

theorem trim_append_right {blanks : List Char} (h : Blanks blanks) (cs : List Char) : trim (cs ++ blanks) = trim cs := by
  unfold trim trimBoth
  rw [List.dropWhile_append]
  split
  next hnil =>
    rw [dropWhile_of_all h, List.isEmpty_iff.mp hnil]
  next => exact trimRight_append_of_all h _

@[simp] theorem trim_trim (cs : List Char) : trim (trim cs) = trim cs := by
  obtain ⟨before, after, hb, ha, hcs⟩ := eq_append_trim cs
  rw [← trim_append_right ha, ← trim_append_left hb, ← hcs]

theorem trim_trimStart (cs : List Char) : trim (trimStart cs) = trim cs := by
  obtain ⟨blanks, hb, hcs⟩ := eq_append_trimStart cs
  rw [← trim_append_left hb, ← hcs]

theorem trim_trimEnd (cs : List Char) : trim (trimEnd cs) = trim cs := by
  obtain ⟨after, ha, hcs⟩ := eq_trimRight_append isBlank cs
  rw [← trim_append_right ha]
  exact congrArg trim hcs.symm

theorem trim_eq_nil_iff {cs : List Char} : trim cs = [] ↔ Blanks cs := by
  constructor
  · intro h
    obtain ⟨before, after, hb, ha, hcs⟩ := eq_append_trim cs
    rw [hcs, h]
    exact hb.append ha
  · intro h
    rw [trim, trimBoth, dropWhile_of_all h]
    rfl

theorem trimmed_eq_empty_iff {s : String} : trimmed s = "" ↔ trim s.toList = [] := by
  rw [← String.toList_eq_nil_iff, trimmed, String.toList_ofList]

end SiteReader.Text
