import Mathlib.Data.List.TakeWhile
import SiteReader.Proofs.Address.Ipv6

/-!
# Addresses as they are written

The written form of an address is one of its spellings: the dotted quad is four decimal bytes (`Ipv4.parts_dotted`), and the
short form of an IPv6 address is eight groups of which the longest run of zeros may be left out (`Ipv6.literal_compressed`).
-/

namespace SiteReader

namespace Ipv4

theorem numeral_decimal {n : Nat} (h : n < 256) : Numeral (decimal n) n := by
  have hdigits : Digits 10 (decimal n) n := .toDigits (by decide) (by decide) n
  have hne : decimal n ≠ [] := Nat.toDigits_ne_nil
  by_cases hzero : n = 0
  · subst hzero
    exact .octal .nil
  · have hall : ∀ n < 256, n ≠ 0 → (decimal n).head? ≠ some '0' := by decide +kernel
    exact .decimal hdigits hne (hall n h hzero)

theorem parts_dotted (a : Ipv4) : Parts 4 a.dotted a.value := by
  have hlt := a.value_lt
  have h1 : a.value / 16777216 < 256 := by omega
  have h2 : a.value / 65536 % 256 < 256 := Nat.mod_lt _ (by decide)
  have h3 : a.value / 256 % 256 < 256 := Nat.mod_lt _ (by decide)
  have h4 : a.value % 256 < 256 := Nat.mod_lt _ (by decide)
  have hlast : Parts 1 (decimal (a.value % 256)) (a.value % 256) := .last (numeral_decimal h4) (by omega)
  have hparts := Parts.byte (numeral_decimal h1) h1 (.byte (numeral_decimal h2) h2 (.byte (numeral_decimal h3) h3 hlast))
  have hvalue : a.value / 16777216 * 256 ^ (2 + 1) + (a.value / 65536 % 256 * 256 ^ (1 + 1) +
      (a.value / 256 % 256 * 256 ^ (0 + 1) + a.value % 256)) = a.value := by omega
  rw [hvalue] at hparts
  have hdotted : a.dotted = decimal (a.value / 16777216) ++ '.' :: (decimal (a.value / 65536 % 256) ++
      '.' :: (decimal (a.value / 256 % 256) ++ '.' :: decimal (a.value % 256))) := by
    simp [dotted, octets, Text.join]
  rw [hdotted]
  exact hparts

end Ipv4

namespace Ipv6

/-! ### The longest run of zeros -/

theorem eq_zeroRun_append (gs : List Nat) : gs = List.replicate (zeroRun gs) 0 ++ gs.dropWhile (· == 0) := by
  have hzeros : gs.takeWhile (· == 0) = List.replicate (zeroRun gs) 0 := by
    refine List.eq_replicate_of_mem fun g hg => ?_
    simpa using List.mem_takeWhile_imp hg
  rw [← hzeros, List.takeWhile_append_dropWhile]

/-- What is found is a run of zeros of the list, at its place. -/
theorem longestZeros_spec (index : Nat) (gs : List Nat) : ∃ high low,
    gs = high ++ List.replicate (longestZeros index gs).2 0 ++ low ∧ (longestZeros index gs).1 = index + high.length := by
  induction gs generalizing index with
  | nil => exact ⟨[], [], rfl, rfl⟩
  | cons g gs ih =>
    obtain ⟨high, low, hgs, hstart⟩ := ih (index + 1)
    simp only [longestZeros]
    split
    next =>
      have hhere := eq_zeroRun_append (g :: gs)
      exact ⟨[], _, hhere, rfl⟩
    next =>
      refine ⟨g :: high, low, ?_, ?_⟩
      · simp only [List.cons_append]
        rw [← hgs]
      · simp only [hstart, List.length_cons]
        omega

/-! ### The written form -/

theorem groups_colons (mixed : Bool) {gs : List Nat} (hne : gs ≠ []) (h : ∀ g ∈ gs, g < 65536) :
    Groups mixed (colons gs) gs := by
  induction gs with
  | nil => exact absurd rfl hne
  | cons g rest ih =>
    have hg : Group (hex g) g := group_hex (h g List.mem_cons_self)
    cases rest with
    | nil => exact .one hg
    | cons g' rest =>
      have hrest := ih (by simp) fun d hd => h d (List.mem_cons_of_mem _ hd)
      have hcolons : colons (g :: g' :: rest) = hex g ++ ':' :: colons (g' :: rest) := by
        simp [colons, Text.join]
      rw [hcolons]
      exact .more hg hrest

theorem side_colons (mixed : Bool) {gs : List Nat} (h : ∀ g ∈ gs, g < 65536) : Side mixed (colons gs) gs := by
  cases gs with
  | nil => exact .empty
  | cons g rest => exact .present (groups_colons mixed (by simp) h)

/-- The written form of an address spells it. -/
theorem literal_compressed (a : Ipv6) : Literal a.compressed a.groups := by
  have hsize := a.size_eq
  have hlt := a.groups_lt
  have hne : a.groups ≠ [] := by
    intro hnil
    rw [hnil] at hsize
    cases hsize
  obtain ⟨high, low, hgroups, hstart⟩ := longestZeros_spec 0 a.groups
  unfold compressed
  rcases hlongest : longestZeros 0 a.groups with ⟨start, length⟩
  rw [hlongest] at hgroups hstart
  simp only [Nat.zero_add] at hgroups hstart ⊢
  split
  next => exact .full (groups_colons true hne hlt) hsize
  next hlength =>
    have hlengths : high.length + length + low.length = 8 := by
      have := congrArg List.length hgroups
      simp only [List.length_append, List.length_replicate] at this
      omega
    have hhigh : a.groups.take start = high := by
      rw [hgroups, hstart, List.append_assoc, List.take_left]
    have hlow : a.groups.drop (start + length) = low := by
      have hfront : (high ++ List.replicate length 0).length = start + length := by simp [hstart]
      rw [hgroups, ← hfront, List.drop_left]
    have hhighlt : ∀ g ∈ high, g < 65536 := fun g hg => hlt g (List.mem_of_mem_take (hhigh ▸ hg))
    have hlowlt : ∀ g ∈ low, g < 65536 := fun g hg => hlt g (List.mem_of_mem_drop (hlow ▸ hg))
    have hgap : Literal (colons high ++ ':' :: ':' :: colons low)
        (high ++ List.replicate (8 - high.length - low.length) 0 ++ low) :=
      .gap (side_colons false hhighlt) (side_colons true hlowlt) (by omega)
    have hmiss : 8 - high.length - low.length = length := by omega
    rw [hmiss, ← hgroups] at hgap
    rw [hhigh, hlow]
    simpa using hgap

end Ipv6

end SiteReader
