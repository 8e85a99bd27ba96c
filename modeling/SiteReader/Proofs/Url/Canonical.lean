import SiteReader.Proofs.Address.Written
import SiteReader.Proofs.Text.Lower
import SiteReader.Proofs.Url.Host

/-!
# Canonical hosts

A canonical host is its own canonical form (`canonicalChars_canonical`): the form of an address is one of the spellings of the
address, and any other form is in lower case without points at its end.  All the spellings of one address have one canonical
form (`canonical_stable`).
-/

namespace SiteReader.Host

/-! ### The form of a form -/

@[simp] theorem lowerCase_lowerCase (host : List Char) : lowerCase (lowerCase host) = lowerCase host := by
  have hlowered : Text.Lowered (lowerCase host) := (Text.lowered_lower host).mono (Text.trimRight_subset _ _)
  have hlower : Text.lower (lowerCase host) = lowerCase host := Text.lower_of_lowered hlowered
  have htrim : Text.trimRight (· = '.') (lowerCase host) = lowerCase host := Text.trimRight_trimRight _ _
  rw [lowerCase.eq_def (lowerCase host), hlower, htrim]

theorem canonicalChars_dotted (a : Ipv4) : canonicalChars a.dotted = .ok a.dotted := by
  have hparts := a.parts_dotted
  have hlower : Text.lower a.dotted = a.dotted.map Text.lowerChar ++ [] := by
    rw [Text.lower_eq_map hparts.allAscii, List.append_nil]
  exact canonicalChars_of_parts hparts (List.forall_mem_nil _) hlower

theorem canonicalChars_compressed (a : Ipv6) : canonicalChars a.compressed = .ok (hostOf a) := by
  have hliteral := a.literal_compressed
  have hlower : Text.lower a.compressed = a.compressed.map Text.lowerChar ++ [] := by
    rw [Text.lower_eq_map hliteral.allAscii, List.append_nil]
  exact canonicalChars_of_spelling hliteral.lower (.inl (List.forall_mem_nil _)) hlower

/-- A canonical host is its own canonical form. -/
theorem canonicalChars_canonical {host name : List Char} (h : canonicalChars host = .ok name) :
    canonicalChars name = .ok name := by
  rcases canonicalChars_cases h with ⟨a, rfl⟩ | ⟨a, hmapped, rfl⟩ | ⟨rfl, -⟩
  · exact canonicalChars_dotted a
  · have hhost : hostOf a = a.compressed := by rw [hostOf, hmapped]
    rw [canonicalChars_compressed, hhost]
  · exact canonicalChars_congr (lowerCase_lowerCase host).symm h

/-! ### Hosts that spell an address -/

/-- A host spells an IPv4 address: as one to four numbers with points after them, or as the IPv6 address that it is
mapped to. -/
inductive SpellsIpv4 : List Char → Ipv4 → Prop
  | numbers {cs points : List Char} {a : Ipv4} (h : Ipv4.Parts 4 cs a.value) (hp : ∀ c ∈ points, c = '.') :
      SpellsIpv4 (cs ++ points) a
  | mapped {cs tail : List Char} {a : Ipv4} (h : Ipv6.Literal cs (mappedGroups a)) (ht : IsTail tail) :
      SpellsIpv4 (cs ++ tail) a

/-- A host spells an IPv6 address, with points or a zone after it. -/
def SpellsIpv6 (host : List Char) (a : Ipv6) : Prop :=
  ∃ cs tail, Ipv6.Literal cs a.groups ∧ IsTail tail ∧ host = cs ++ tail

theorem lowerAfter_points {points : List Char} (h : ∀ c ∈ points, c = '.') (before : List Char) :
    Text.lowerAfter before points = points := by
  induction points generalizing before with
  | nil => rfl
  | cons c rest ih =>
    obtain rfl := h c List.mem_cons_self
    have hrest := ih (fun d hd => h d (List.mem_cons_of_mem _ hd)) ('.' :: before)
    have hpoint : Text.lowerChar '.' = '.' := by decide
    rw [Text.lowerAfter, hrest, hpoint]
    rfl

/-- What may stand after an address may still stand there in lower case. -/
theorem IsTail.lowerAfter {tail : List Char} (h : IsTail tail) (before : List Char) :
    IsTail (Text.lowerAfter before tail) := by
  rcases h with hpoints | ⟨zone, rfl⟩
  · rw [lowerAfter_points hpoints]
    exact .inl hpoints
  · have hpercent : Text.lowerChar '%' = '%' := by decide
    refine .inr ⟨Text.lowerAfter ('%' :: before) zone, ?_⟩
    rw [Text.lowerAfter, hpercent]
    rfl

theorem SpellsIpv6.canonicalChars_eq {host : List Char} {a : Ipv6} (h : SpellsIpv6 host a) :
    canonicalChars host = .ok (hostOf a) := by
  obtain ⟨cs, tail, hliteral, htail, rfl⟩ := h
  exact canonicalChars_of_spelling hliteral.lower (htail.lowerAfter cs.reverse) (Text.lower_append hliteral.allAscii tail)

theorem SpellsIpv4.canonicalChars_eq {host : List Char} {a : Ipv4} (h : SpellsIpv4 host a) :
    canonicalChars host = .ok a.dotted := by
  cases h with
  | numbers hparts hpoints =>
    refine canonicalChars_of_parts hparts hpoints ?_
    rw [Text.lower_append hparts.allAscii, lowerAfter_points hpoints]
  | @mapped cs tail _ hliteral htail =>
    obtain ⟨address, -, hgroups⟩ := hliteral.parse?_eq
    have hspells : SpellsIpv6 (cs ++ tail) address := ⟨cs, tail, hgroups ▸ hliteral, htail, rfl⟩
    have hhost : hostOf address = a.dotted := by rw [hostOf, mapped?_eq hgroups]
    rw [hspells.canonicalChars_eq, hhost]

/-! ### Hosts as strings -/

theorem canonical_eq {host : String} {name : List Char} (h : canonicalChars host.toList = .ok name) :
    canonical host = .ok (String.ofList name) := by
  rw [canonical, h]
  rfl

theorem canonicalChars_of_canonical {host name : String} (h : canonical host = .ok name) :
    canonicalChars host.toList = .ok name.toList := by
  unfold canonical at h
  cases hform : canonicalChars host.toList with
  | error fault =>
    rw [hform] at h
    cases h
  | ok form =>
    rw [hform] at h
    obtain rfl : String.ofList form = name := Except.ok.inj h
    rw [String.toList_ofList]

theorem canonical_canonical {host name : String} (h : canonical host = .ok name) : canonical name = .ok name := by
  have hstable := canonical_eq (canonicalChars_canonical (canonicalChars_of_canonical h))
  rwa [String.ofList_toList] at hstable

/-- A canonical host is its own canonical form.  All the hosts that spell an IPv4 address have its dotted quad as their
canonical form, and all those that spell an IPv6 address have the form that it is connected to by. -/
theorem canonical_stable :
    (∀ host name, canonical host = .ok name → canonical name = .ok name) ∧
    (∀ (a : Ipv4) (host other : String), SpellsIpv4 host.toList a → SpellsIpv4 other.toList a →
      canonical host = canonical other ∧ canonical host = .ok (String.ofList a.dotted)) ∧
    (∀ (a : Ipv6) (host other : String), SpellsIpv6 host.toList a → SpellsIpv6 other.toList a →
      canonical host = canonical other ∧ canonical host = .ok (String.ofList (hostOf a))) := by
  refine ⟨fun host name h => canonical_canonical h, fun a host other hhost hother => ?_, fun a host other hhost hother => ?_⟩
  · have hform := canonical_eq hhost.canonicalChars_eq
    have hother := canonical_eq hother.canonicalChars_eq
    exact ⟨hform.trans hother.symm, hform⟩
  · have hform := canonical_eq hhost.canonicalChars_eq
    have hother := canonical_eq hother.canonicalChars_eq
    exact ⟨hform.trans hother.symm, hform⟩

/-- The loopback address as a number with a byte before it, as a quad with points after it, and as the address that it is
mapped to in a zone; a local address in capitals with a zone, and without. -/
theorem canonical_stable_local :
    canonical "127.1" = canonical "127.0.0.1.." ∧ canonical "127.1" = canonical "::ffff:7f00:1%lo" ∧
    canonical "127.1" = .ok "127.0.0.1" ∧ canonical "127.0.0.1" = .ok "127.0.0.1" ∧
    canonical "FE80::1%Eth0" = canonical "fe80::1" ∧ canonical "fe80::1" = .ok "fe80::1" := by
  let loopback : Ipv4 := ⟨2130706433, by decide⟩
  let mapped : Ipv6 := ⟨mappedGroups loopback, by decide, by decide⟩
  let linkLocal : Ipv6 := ⟨[0xFE80, 0, 0, 0, 0, 0, 0, 1], by decide, by decide⟩
  have hbyte : SpellsIpv4 "127.1".toList loopback := by
    have hlast : Ipv4.Parts 3 ['1'] 1 := .last (Ipv4.numeral_decimal (n := 1) (by decide)) (by decide)
    have hparts : Ipv4.Parts 4 ['1', '2', '7', '.', '1'] loopback.value :=
      .byte (Ipv4.numeral_decimal (n := 127) (by decide)) (by decide) hlast
    have hhost : "127.1".toList = ['1', '2', '7', '.', '1'] ++ [] := rfl
    rw [hhost]
    exact .numbers hparts (List.forall_mem_nil _)
  have hquad : SpellsIpv4 "127.0.0.1..".toList loopback := by
    have hhost : "127.0.0.1..".toList = loopback.dotted ++ ['.', '.'] := by decide
    rw [hhost]
    exact .numbers loopback.parts_dotted (by simp)
  have hmapped : SpellsIpv4 "::ffff:7f00:1%lo".toList loopback := by
    have hhost : "::ffff:7f00:1%lo".toList = mapped.compressed ++ ['%', 'l', 'o'] := by decide
    rw [hhost]
    exact .mapped mapped.literal_compressed (.inr ⟨['l', 'o'], rfl⟩)
  have hcapital : Ipv6.Group ['F', 'E', '8', '0'] 0xFE80 := by
    have hdigit (c : Char) (d : Nat) (hd : d < 16 ∧ "0123456789ABCDEF".toList[d]? = some c) : Ipv4.IsDigit 16 c d :=
      ⟨hd.1, .inr hd.2⟩
    have hdigits : Ipv4.Digits 16 ['F', 'E', '8', '0'] 0xFE80 :=
      .snoc (.snoc (.snoc (.snoc .nil (hdigit 'F' 15 (by decide))) (hdigit 'E' 14 (by decide))) (hdigit '8' 8 (by decide)))
        (hdigit '0' 0 (by decide))
    exact ⟨hdigits, by decide, by decide⟩
  have hzone : SpellsIpv6 "FE80::1%Eth0".toList linkLocal := by
    have hlow : Ipv6.Side true (Ipv6.colons [1]) [1] := Ipv6.side_colons true (by decide)
    have hliteral : Ipv6.Literal "FE80::1".toList linkLocal.groups := .gap (.present (.one hcapital)) hlow (by decide)
    exact ⟨_, _, hliteral, .inr ⟨['E', 't', 'h', '0'], rfl⟩, rfl⟩
  have hplain : SpellsIpv6 "fe80::1".toList linkLocal :=
    ⟨_, [], linkLocal.literal_compressed, .inl (List.forall_mem_nil _), by decide⟩
  have hform : canonical "127.1" = .ok "127.0.0.1" := by
    have hdotted : String.ofList loopback.dotted = "127.0.0.1" := by decide
    rw [← hdotted]
    exact (canonical_stable.2.1 loopback _ _ hbyte hquad).2
  have hlocal : canonical "fe80::1" = .ok "fe80::1" := by
    have hhost : String.ofList (hostOf linkLocal) = "fe80::1" := by decide
    rw [← hhost]
    exact (canonical_stable.2.2 linkLocal _ _ hplain hplain).2
  exact ⟨(canonical_stable.2.1 loopback _ _ hbyte hquad).1, (canonical_stable.2.1 loopback _ _ hbyte hmapped).1, hform,
    canonical_stable.1 _ _ hform, (canonical_stable.2.2 linkLocal _ _ hzone hplain).1, hlocal⟩

end SiteReader.Host
