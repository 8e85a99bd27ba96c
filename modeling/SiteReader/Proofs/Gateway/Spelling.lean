import SiteReader.Proofs.Gateway.Destination
import SiteReader.Proofs.Url.Spelling

/-!
# No spelling of a forbidden address passes

The usual policy forbids three addresses by themselves and three ranges (`Ipv4.IsForbidden`).  It tells them by the dotted
quad (`forbidden_dotted`), which is what every spelling comes to, so that a URL for such an address is blocked however the
address is spelled in it (`spelled_forbidden_blocked`).
-/

namespace SiteReader

/-! ### Forbidden addresses -/

/-- The address is 127.0.0.1, 0.0.0.0 or 169.254.169.254, or in one of the internal ranges. -/
def Ipv4.IsForbidden (a : Ipv4) : Prop :=
  a.inBlock (127, 0, 0, 1) 32 = true ∨ a.inBlock (0, 0, 0, 0) 32 = true ∨ a.inBlock (169, 254, 169, 254) 32 = true ∨
    a.IsInternal

namespace Gateway

theorem blockedHosts_dotted {a : Ipv4} (b : Ipv4) (h : a.value = b.value)
    (hb : Config.standard.blockedHosts.contains (String.ofList b.dotted) = true) :
    Config.standard.blockedHosts.contains (String.ofList a.dotted) = true := by
  rw [Ipv4.dotted, Ipv4.octets, h]
  exact hb

/-- The policy tells a forbidden address by its dotted quad. -/
theorem forbidden_dotted {a : Ipv4} (h : a.IsForbidden) :
    Config.standard.blockedHosts.contains (String.ofList a.dotted) = true ∨
      Config.isPrivateRange (String.ofList a.dotted) = true := by
  have hpow : Nat.pow 2 (32 - 32) = 1 := by decide
  simp only [Ipv4.IsForbidden, Ipv4.inBlock, beq_iff_eq, hpow, Nat.div_one] at h
  rcases h with h | h | h | h
  · exact .inl (blockedHosts_dotted ⟨0x7F000001, by decide⟩ h (by decide))
  · exact .inl (blockedHosts_dotted ⟨0, by decide⟩ h (by decide))
  · exact .inl (blockedHosts_dotted ⟨0xA9FEA9FE, by decide⟩ h (by decide))
  · exact .inr (isPrivateRange_dotted h)

/-! ### Checking a spelled address -/

theorem ofUrl_spelled {url : List Char} {a : Ipv4} (h : Url.UrlSpelling url a) {destination : Destination}
    (hd : Destination.ofUrl (String.ofList url) = .ok destination) : destination.host = String.ofList a.dotted := by
  obtain ⟨parts, name, port, hs, hn, -, rfl⟩ := ofUrl_eq_ok_iff.mp hd
  rw [String.toList_ofList] at hs
  have hc := (h.canonical hs).2
  rw [hn] at hc
  rw [Except.ok.inj hc]

/-- Every URL that spells a forbidden address is blocked. -/
theorem spelled_forbidden_blocked (resolver : Resolver) {a : Ipv4} (ha : a.IsForbidden) {url : List Char}
    (h : Url.UrlSpelling url a) :
    ∃ refusal, checkDestination .standard resolver (String.ofList url) = .error (.blocked refusal) := by
  rcases accepted_or_blocked .standard resolver (String.ofList url) with ⟨destination, hd⟩ | hb
  · have hblocked := hd.not_blocked
    have hprivate := hd.not_private _ isPrivateRange_mem
    rw [ofUrl_spelled h hd.ofUrl_eq] at hblocked hprivate
    rcases forbidden_dotted ha with hf | hf
    · exact absurd (by simpa using hf) hblocked
    · rw [hprivate] at hf
      cases hf
  · exact hb

private theorem loopback_parts : Ipv4.Parts 4 ['0', 'x', '7', 'F', '.', '1'] 0x7F000001 := by
  have hseven : Ipv4.Digits 16 ['7'] 7 := .snoc (n := 0) (d := 7) .nil ⟨by decide, .inl rfl⟩
  have hfirst : Ipv4.Digits 16 ['7', 'F'] 127 := .snoc (n := 7) (d := 15) hseven ⟨by decide, .inr rfl⟩
  have hlast : Ipv4.Digits 10 ['1'] 1 := .snoc (n := 0) (d := 1) .nil ⟨by decide, .inl rfl⟩
  exact .byte (.hexadecimal hfirst (by decide) (.inl rfl)) (by decide) (.last (.decimal hlast (by decide) (by decide))
    (by decide))

theorem spelled_loopback_blocked :
    (Ipv4.mk 0x7F000001 (by decide)).IsForbidden ∧
    Url.UrlSpelling "HTTP://me@0x7F.1..:80/a?b#c".toList (Ipv4.mk 0x7F000001 (by decide)) ∧
    ∃ refusal, checkDestination .standard (fun _ => .ok []) (String.ofList "HTTP://me@0x7F.1..:80/a?b#c".toList) =
      .error (.blocked refusal) := by
  have hforbidden : (Ipv4.mk 0x7F000001 (by decide)).IsForbidden := .inl (by decide)
  have hhost : Url.HostSpelling ("0x7F.1".toList ++ "..".toList) (Ipv4.mk 0x7F000001 (by decide)) :=
    .parts loopback_parts (Text.forall_mem (by decide))
  have hspelling : Url.UrlSpelling "HTTP://me@0x7F.1..:80/a?b#c".toList (Ipv4.mk 0x7F000001 (by decide)) :=
    @Url.UrlSpelling.url "HTTP".toList "me@".toList _ ":80".toList "/a?b#c".toList _ (by decide)
      (.inr ⟨"me".toList, rfl, Text.forall_mem (by decide)⟩) hhost
      (.inr ⟨"80".toList, rfl, Text.forall_mem (by decide)⟩) (fun c hc => Option.some.inj hc ▸ by decide)
  exact ⟨hforbidden, hspelling, spelled_forbidden_blocked _ hforbidden hspelling⟩

end Gateway

end SiteReader
