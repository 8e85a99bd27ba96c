import SiteReader.Proofs.Address.Ipv6
import SiteReader.Proofs.Text.Lower
import SiteReader.Url.Host

/-!
# Canonical forms of spelled addresses

Whatever way an IPv4 address is spelled, with points after it or as an IPv6 address that it is mapped to, the canonical form of
the host is its dotted quad (`canonicalChars_of_parts`, `canonicalChars_of_literal`).  Of any other IPv6 address it is the
compressed form, and what stands after the address does not matter (`canonicalChars_of_spelling`).
-/

namespace SiteReader.Host

/-- The groups of the IPv6 address that an IPv4 address is mapped to. -/
def mappedGroups (a : Ipv4) : List Nat :=
  [0, 0, 0, 0, 0, 0xFFFF, a.value / 65536, a.value % 65536]

theorem mapped?_eq {address : Ipv6} {a : Ipv4} (h : address.groups = mappedGroups a) : address.mapped? = some a := by
  have hvalue : a.value / 65536 * 65536 + a.value % 65536 = a.value := by omega
  simp only [Ipv6.mapped?, h, mappedGroups, hvalue]
  exact dif_pos a.value_lt

theorem canonicalChars_of_parts {host cs dots : List Char} {a : Ipv4} (h : Ipv4.Parts 4 cs a.value)
    (hd : ∀ c ∈ dots, c = '.') (hh : Text.lower host = cs.map Text.lowerChar ++ dots) :
    canonicalChars host = .ok a.dotted := by
  have hl := h.lower
  have hname : lowerCase host = cs.map Text.lowerChar := by
    rw [lowerCase, hh]
    refine Text.trimRight_append (fun c hc => ?_) (fun c hc => by simpa using hd c hc)
    have hne := hl.getLast?_ne
    rw [hc] at hne
    simpa using hne
  have hcolon : (cs.map Text.lowerChar).contains ':' = false := by simpa using hl.not_mem (c := ':') (by decide)
  have hempty : (cs.map Text.lowerChar).isEmpty = false := by simpa using hl.ne_nil
  have hnumeric := hl.isNumericLabel (Text.map_lowerChar_map_lowerChar cs)
  rw [canonicalChars, hname]
  simp only [hcolon, hempty, hnumeric, hl.loose?_eq, Bool.false_eq_true, ↓reduceIte, Bool.not_false, Bool.and_self]

/-- What may stand after an address in a host: points, or a zone after a percent sign. -/
def IsTail (tail : List Char) : Prop :=
  (∀ c ∈ tail, c = '.') ∨ ∃ zone, tail = '%' :: zone

/-- The form of an IPv6 address that it is connected to by. -/
def hostOf (address : Ipv6) : List Char :=
  match address.mapped? with
  | some ipv4 => ipv4.dotted
  | none => address.compressed

/-- What stands after an address does not matter. -/
theorem canonicalChars_of_spelling {host cs tail : List Char} {address : Ipv6} (h : Ipv6.Literal cs address.groups)
    (ht : IsTail tail) (hh : Text.lower host = cs ++ tail) : canonicalChars host = .ok (hostOf address) := by
  have hpercent : ∀ c ∈ cs, (c != '%') = true := Text.ne_of_not_mem (h.not_mem (by decide))
  have hname : ':' ∈ lowerCase host ∧ (lowerCase host).takeWhile (· != '%') = cs := by
    rcases ht with hpoints | ⟨zone, rfl⟩
    · have htrim : lowerCase host = cs := by
        rw [lowerCase, hh]
        refine Text.trimRight_append (fun c hc => ?_) (fun c hc => by simpa using hpoints c hc)
        have hne := h.getLast?_ne
        rw [hc] at hne
        simpa using hne
      rw [htrim]
      exact ⟨h.colon_mem, Text.takeWhile_of_all hpercent⟩
    · have htrim : lowerCase host = cs ++ '%' :: Text.trimRight (· = '.') zone := by
        rw [lowerCase, hh, Text.trimRight_append_cons cs (by decide)]
      rw [htrim]
      exact ⟨by simp [h.colon_mem], Text.takeWhile_append_of_stop hpercent (by simp)⟩
  obtain ⟨found, hp, hg⟩ := h.parse?_eq
  obtain rfl : found = address := Ipv6.eq_of_groups hg
  have hcolon : (lowerCase host).contains ':' = true := by simpa using hname.1
  rw [canonicalChars, hostOf]
  simp only [hcolon, ↓reduceIte, hname.2, hp]
  cases found.mapped? <;> rfl

/-- A zone after a percent sign does not matter. -/
theorem canonicalChars_of_literal {host cs : List Char} {a : Ipv4} (h : Ipv6.Literal cs (mappedGroups a))
    (hh : Text.lower host = cs ∨ ∃ zone, Text.lower host = cs ++ '%' :: zone) :
    canonicalChars host = .ok a.dotted := by
  obtain ⟨address, -, hg⟩ := h.parse?_eq
  have hhost : hostOf address = a.dotted := by rw [hostOf, mapped?_eq hg]
  rw [← hg] at h
  rw [← hhost]
  rcases hh with hh | ⟨zone, hh⟩
  · exact canonicalChars_of_spelling h (.inl (List.forall_mem_nil _)) (by rw [hh, List.append_nil])
  · exact canonicalChars_of_spelling h (.inr ⟨zone, rfl⟩) hh

/-! ### What a canonical form is -/

theorem canonicalChars_cases {host name : List Char} (h : canonicalChars host = .ok name) :
    (∃ a : Ipv4, name = a.dotted) ∨ (∃ a : Ipv6, a.mapped? = none ∧ name = a.compressed) ∨
      (name = lowerCase host ∧ ':' ∉ name) := by
  unfold canonicalChars at h
  simp only at h
  split at h
  next =>
    split at h
    next => cases h
    next address _ =>
      split at h
      next ipv4 _ => exact .inl ⟨ipv4, (Except.ok.inj h).symm⟩
      next hm => exact .inr (.inl ⟨address, hm, (Except.ok.inj h).symm⟩)
  next hcolon =>
    split at h
    next =>
      split at h
      next address _ => exact .inl ⟨address, (Except.ok.inj h).symm⟩
      next => cases h
    next =>
      obtain rfl := Except.ok.inj h
      exact .inr (.inr ⟨rfl, by simpa using hcolon⟩)

/-! ### Letter case and zones -/

theorem canonicalChars_congr {host other name : List Char} (h : lowerCase host = lowerCase other)
    (hn : canonicalChars host = .ok name) : canonicalChars other = .ok name := by
  unfold canonicalChars at hn ⊢
  rw [h] at hn
  simp only at hn ⊢
  split
  next hcolon =>
    rw [if_pos hcolon] at hn
    exact hn
  next hcolon =>
    rw [if_neg hcolon] at hn
    split
    next hnumeric =>
      rw [if_pos hnumeric] at hn
      split
      next heq => rwa [heq] at hn
      next heq =>
        rw [heq] at hn
        cases hn
    next hnumeric => rwa [if_neg hnumeric] at hn

/-- Lowering the host but for its zone first makes no difference to the canonical form. -/
theorem lowerCase_zone {host : List Char} (h : Text.AllAscii host) :
    lowerCase (Text.lower (host.takeWhile (· != '%')) ++ host.dropWhile (· != '%')) = lowerCase host := by
  have hhost := List.takeWhile_append_dropWhile (p := (· != '%')) (l := host)
  generalize host.takeWhile (· != '%') = front at hhost ⊢
  generalize host.dropWhile (· != '%') = zone at hhost ⊢
  subst hhost
  have hfront : Text.AllAscii front := h.mono (List.subset_append_left front zone)
  have hzone : Text.AllAscii zone := h.mono (List.subset_append_right front zone)
  have hlowered : Text.AllAscii (front.map Text.lowerChar ++ zone) := hfront.map_lowerChar.append hzone
  rw [lowerCase, lowerCase, Text.lower_eq_map hfront, Text.lower_eq_map hlowered, Text.lower_eq_map h, List.map_append,
    List.map_append, Text.map_lowerChar_map_lowerChar]

end SiteReader.Host
