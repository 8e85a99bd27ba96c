import SiteReader.Proofs.Gateway.Destination
import SiteReader.Proofs.Url.Host

/-!
# Which hosts the usual policy lets pass

The internal ranges are told by how a host begins, whatever follows (`isPrivateRange_iff`).  Among the dotted quads these are
the internal ones and no others (`isInternal_of_begins`), and no IPv6 address begins so (`not_begins_of_colon`).  A name that
is no address may, and then it is refused although it is in no range at all; every other host that is on no list passes
(`checkDestination_of_unlisted`).
-/

namespace SiteReader

/-! ### Characters of joined texts -/

theorem Text.mem_join {mark : List Char} {parts : List (List Char)} {c : Char} (h : c ∈ Text.join mark parts) :
    c ∈ mark ∨ ∃ part ∈ parts, c ∈ part := by
  induction parts with
  | nil => cases h
  | cons first rest ih =>
    cases rest with
    | nil => exact .inr ⟨first, List.mem_cons_self, h⟩
    | cons second rest =>
      rw [Text.join, List.mem_append, List.mem_append] at h
      · rcases h with (h | h) | h
        · exact .inr ⟨first, List.mem_cons_self, h⟩
        · exact .inl h
        · rcases ih h with h | ⟨part, hp, hc⟩
          · exact .inl h
          · exact .inr ⟨part, List.mem_cons_of_mem _ hp, hc⟩
      · simp

theorem Ipv6.point_not_mem_compressed (a : Ipv6) : '.' ∉ a.compressed := by
  have hcolons : ∀ gs : List Nat, '.' ∉ Ipv6.colons gs := by
    intro gs h
    rcases Text.mem_join h with h | ⟨part, hp, hc⟩
    · exact absurd h (by decide)
    · obtain ⟨g, -, rfl⟩ := List.mem_map.mp hp
      obtain ⟨d, hd⟩ := (Ipv4.Digits.toDigits (by decide) (by decide) g : Ipv4.Digits 16 _ g).exists_digit '.' hc
      exact absurd hd.isHexDigit (by decide)
  unfold Ipv6.compressed
  split
  split
  · exact hcolons a.groups
  · simp [hcolons]

namespace Gateway

/-! ### How internal addresses begin -/

/-- What all dotted quads of one of the internal ranges, or of a sixteenth of 172.16/12, begin with. -/
inductive InternalStart : List Char → Prop
  | ten : InternalStart "10.".toList
  | hundredSeventyTwo {n : Nat} (h : 16 ≤ n) (hlt : n < 32) :
      InternalStart ("172.".toList ++ (Ipv4.decimal n ++ ['.']))
  | hundredNinetyTwo : InternalStart "192.168.".toList

/-- A host begins like an address of the internal ranges. -/
def BeginsInternal (host : List Char) : Prop :=
  ∃ start rest, InternalStart start ∧ host = start ++ rest

theorem startsWithPrivateByte_iff {cs : List Char} : Config.startsWithPrivateByte cs = true ↔
    ∃ n rest, 16 ≤ n ∧ n < 32 ∧ cs = Ipv4.decimal n ++ '.' :: rest := by
  constructor
  · intro h
    unfold Config.startsWithPrivateByte at h
    split at h
    next a b rest =>
      -- two digits: the first one is told, the second one is found among the ten
      have hdigits : ∀ n < 10, Ipv4.decimal (10 + n) = ['1', Char.ofNat (48 + n)] ∧
          Ipv4.decimal (20 + n) = ['2', Char.ofNat (48 + n)] ∧
          Ipv4.decimal (30 + n) = ['3', Char.ofNat (48 + n)] := by decide
      have hb : ∀ n, b.toNat = 48 + n → b = Char.ofNat (48 + n) := fun n hn => by rw [← hn, Char.ofNat_toNat]
      simp only [Bool.or_eq_true, Bool.and_eq_true, decide_eq_true_eq] at h
      rcases h with (⟨⟨rfl, hlo⟩, hhi⟩ | ⟨rfl, hd⟩) | ⟨rfl, rfl | rfl⟩
      · have hlo' : 54 ≤ b.toNat := hlo
        have hhi' : b.toNat ≤ 57 := hhi
        refine ⟨10 + (b.toNat - 48), rest, by omega, by omega, ?_⟩
        rw [(hdigits (b.toNat - 48) (by omega)).1, ← hb _ (by omega)]
        rfl
      · have hd' := Ipv4.isAsciiDigit_cases hd
        refine ⟨20 + (b.toNat - 48), rest, by omega, by omega, ?_⟩
        rw [(hdigits (b.toNat - 48) (by omega)).2.1, ← hb _ (by omega)]
        rfl
      · exact ⟨30, rest, by omega, by omega, rfl⟩
      · exact ⟨31, rest, by omega, by omega, rfl⟩
    next => cases h
  · rintro ⟨n, rest, hn, hlt, rfl⟩
    exact startsWithPrivateByte_decimal hn hlt rest

theorem isPrivateRange_iff {host : String} : Config.isPrivateRange host = true ↔ BeginsInternal host.toList := by
  unfold Config.isPrivateRange
  simp only [Bool.or_eq_true, List.isPrefixOf_iff_prefix]
  constructor
  · rintro ((⟨rest, h⟩ | ⟨rest, h⟩) | h)
    · exact ⟨_, rest, .ten, h.symm⟩
    · exact ⟨_, rest, .hundredNinetyTwo, h.symm⟩
    · split at h
      next rest hrest =>
        obtain ⟨n, tail, hn, hlt, rfl⟩ := startsWithPrivateByte_iff.mp h
        refine ⟨_, tail, .hundredSeventyTwo hn hlt, ?_⟩
        rw [Text.append_of_dropHead? hrest]
        simp
      next => cases h
  · rintro ⟨start, rest, hstart, h⟩
    rw [h]
    cases hstart with
    | ten => exact .inl (.inl ⟨rest, rfl⟩)
    | hundredNinetyTwo => exact .inl (.inr ⟨rest, rfl⟩)
    | @hundredSeventyTwo n hn hlt =>
      refine .inr ?_
      rw [List.append_assoc, Text.dropHead?_append, List.append_assoc]
      exact startsWithPrivateByte_decimal hn hlt rest

/-! ### Addresses that begin so -/

/-- The first piece of a text that begins with a number and a point is this number. -/
theorem splitOn_decimal {m n : Nat} {r : List Char} {pieces : List (List Char)}
    (h : Text.splitOn ['.'] (Ipv4.decimal n ++ '.' :: r) = Ipv4.decimal m :: pieces) :
    m = n ∧ Text.splitOn ['.'] r = pieces := by
  have hpoint : '.' ∉ Ipv4.decimal n := fun hc => absurd (Ipv4.isAsciiDigit_of_mem_decimal hc) (by decide)
  rw [Text.splitOn_append_of_not_mem hpoint, List.cons.injEq] at h
  exact ⟨Ipv4.decimal_injective h.1.symm, h.2⟩

theorem isInternal_of_begins {a : Ipv4} (h : BeginsInternal a.dotted) : a.IsInternal := by
  have hpow : Nat.pow 2 (32 - 8) = 16777216 ∧ Nat.pow 2 (32 - 12) = 1048576 ∧ Nat.pow 2 (32 - 16) = 65536 := by decide
  have hlt := a.value_lt
  have hsplit := a.splitOn_dotted
  simp only [Ipv4.IsInternal, Ipv4.inBlock, beq_iff_eq, hpow]
  simp only [Ipv4.octets, List.map_cons, List.map_nil] at hsplit
  obtain ⟨start, rest, hstart, h⟩ := h
  rw [h] at hsplit
  cases hstart with
  | ten =>
    obtain ⟨hfirst, -⟩ := splitOn_decimal (n := 10) (r := rest) hsplit
    exact .inl (by omega)
  | @hundredSeventyTwo n hn hlt =>
    rw [List.append_assoc, List.append_assoc] at hsplit
    obtain ⟨hfirst, htail⟩ := splitOn_decimal (n := 172) (r := Ipv4.decimal n ++ '.' :: rest) hsplit
    obtain ⟨hsecond, -⟩ := splitOn_decimal htail
    exact .inr (.inl (by omega))
  | hundredNinetyTwo =>
    obtain ⟨hfirst, htail⟩ := splitOn_decimal (n := 192) (r := Ipv4.decimal 168 ++ '.' :: rest) hsplit
    obtain ⟨hsecond, -⟩ := splitOn_decimal htail
    exact .inr (.inr (by omega))

/-- A canonical host with a colon is an IPv6 address, which has no point. -/
theorem not_begins_of_colon {host name : List Char} (hn : Host.canonicalChars host = .ok name) (hc : ':' ∈ name) :
    ¬ BeginsInternal name := by
  have hpoint : '.' ∉ name := by
    rcases Host.canonicalChars_cases hn with ⟨a, rfl⟩ | ⟨a, -, rfl⟩ | ⟨-, hcolon⟩
    · rcases Ipv4.mem_dotted hc with h | h
      · exact absurd h (by decide)
      · exact absurd h (by decide)
    · exact a.point_not_mem_compressed
    · exact absurd hc hcolon
  rintro ⟨start, rest, hstart, rfl⟩
  cases hstart <;> simp at hpoint

/-! ### Hosts on no list -/

/-- A URL for a host that is on no list is accepted unless the host begins like an internal address, which neither an IPv4
address nor an IPv6 address does then. -/
theorem checkDestination_of_unlisted (resolver : Resolver) {url : String} {parts : Url} {port : Option Nat}
    {name : List Char} (hs : Url.split url.toList = .ok parts)
    (hscheme : parts.scheme = "http".toList ∨ parts.scheme = "https".toList) (hp : parts.port = .ok port)
    (hn : Host.canonicalChars parts.host = .ok name) (hne : name ≠ [])
    (hblocked : String.ofList name ∉ Config.standard.blockedHosts) (hinternal : ∀ a : Ipv4, a.IsInternal → name ≠ a.dotted) :
    (¬ BeginsInternal name → checkDestination .standard resolver url = .ok ()) ∧
      (BeginsInternal name →
        checkDestination .standard resolver url = .error (.blocked (.privateHost (String.ofList name)))) ∧
      (':' ∈ name ∨ (∃ a : Ipv4, name = a.dotted) → checkDestination .standard resolver url = .ok ()) := by
  have hof : Destination.ofUrl url = .ok ⟨String.ofList parts.scheme, String.ofList name⟩ :=
    ofUrl_eq_ok_iff.mpr ⟨parts, name, port, hs, hn, hp, rfl⟩
  have hprivate : Config.isPrivateRange (String.ofList name) = true ↔ BeginsInternal name := by
    rw [isPrivateRange_iff, String.toList_ofList]
  have hpass : ¬ BeginsInternal name → checkDestination .standard resolver url = .ok () := by
    intro hb
    have haccepted : Accepted .standard url ⟨String.ofList parts.scheme, String.ofList name⟩ := by
      refine ⟨hof, ?_, ?_, hblocked, ?_⟩
      · rcases hscheme with h | h
        · exact .inl (by rw [h]; rfl)
        · exact .inr (by rw [h]; rfl)
      · simpa using hne
      · intro isPrivate hm
        rw [List.mem_singleton.mp hm]
        exact Bool.eq_false_iff.mpr (mt hprivate.mp hb)
    exact haccepted.checkDestination_eq resolver
  refine ⟨hpass, ?_, ?_⟩
  · intro hb
    have hscheme' : (String.ofList parts.scheme ≠ "http" && String.ofList parts.scheme ≠ "https") = false := by
      rcases hscheme with h | h <;> rw [h] <;> decide
    have hempty : (String.ofList name).isEmpty = false := by simpa using hne
    have hlist : Config.standard.blockedHosts.contains (String.ofList name) = false := by simpa using hblocked
    have hany : Config.standard.privateHosts.any (· (String.ofList name)) = true :=
      List.any_eq_true.mpr ⟨_, isPrivateRange_mem, hprivate.mpr hb⟩
    simp only [checkDestination, hof, hscheme', hempty, hlist, hany, Bool.false_eq_true, ↓reduceIte]
  · rintro (hc | ⟨a, rfl⟩)
    · exact hpass (not_begins_of_colon hn hc)
    · exact hpass fun hb => hinternal a (isInternal_of_begins hb) rfl

theorem checkDestination_beside_internal :
    Url.split "https://172.32.0.1:8443/a".toList =
        .ok ⟨"https".toList, "172.32.0.1:8443".toList, "/a".toList, [], []⟩ ∧
      Host.canonicalChars "172.32.0.1".toList = .ok "172.32.0.1".toList ∧
      String.ofList "172.32.0.1".toList ∉ Config.standard.blockedHosts ∧
      (∀ a : Ipv4, a.IsInternal → "172.32.0.1".toList ≠ a.dotted) ∧
      checkDestination .standard (fun _ => .ok []) "https://172.32.0.1:8443/a" = .ok () := by
  have hs : Url.split "https://172.32.0.1:8443/a".toList =
      .ok ⟨"https".toList, "172.32.0.1:8443".toList, "/a".toList, [], []⟩ := by rfl
  have hn : Host.canonicalChars "172.32.0.1".toList = .ok "172.32.0.1".toList := by decide +kernel
  have hblocked : String.ofList "172.32.0.1".toList ∉ Config.standard.blockedHosts := by decide
  have hdotted : "172.32.0.1".toList = (Ipv4.mk 0xAC200001 (by decide)).dotted := by decide +kernel
  have hinternal : ∀ a : Ipv4, a.IsInternal → "172.32.0.1".toList ≠ a.dotted := by
    intro a ha he
    have hread := a.strict?_dotted
    rw [← he, hdotted, Ipv4.strict?_dotted] at hread
    obtain rfl := Option.some.inj hread
    rcases ha with h | h | h <;> exact absurd h (by decide)
  have hp : Url.port ⟨"https".toList, "172.32.0.1:8443".toList, "/a".toList, [], []⟩ = .ok (some 8443) := by rfl
  exact ⟨hs, hn, hblocked, hinternal,
    (checkDestination_of_unlisted _ hs (.inr rfl) hp hn (by decide) hblocked hinternal).2.2 (.inr ⟨_, hdotted⟩)⟩

/-- A domain name that begins like an internal address is refused, although it is on no list and no address at all. -/
theorem unlisted_name_refused :
    ¬ ∀ (url : String) (parts : Url) (port : Option Nat) (name : List Char), Url.split url.toList = .ok parts →
      parts.scheme = "http".toList ∨ parts.scheme = "https".toList → parts.port = .ok port →
      Host.canonicalChars parts.host = .ok name → name ≠ [] →
      String.ofList name ∉ Config.standard.blockedHosts → (∀ a : Ipv4, a.IsInternal → name ≠ a.dotted) →
      checkDestination .standard (fun _ => .ok []) url = .ok () := by
  intro h
  have hletter : ∀ a : Ipv4, a.IsInternal → "10.example.com".toList ≠ a.dotted := by
    intro a _ he
    have hm : 'e' ∈ a.dotted := he ▸ (by decide : 'e' ∈ "10.example.com".toList)
    rcases Ipv4.mem_dotted hm with h | h
    · exact absurd h (by decide)
    · exact absurd h (by decide)
  have hrefused : checkDestination .standard (fun _ => .ok []) "http://10.example.com/" =
      .error (.blocked (.privateHost "10.example.com")) := by rfl
  have hok := h "http://10.example.com/" ⟨"http".toList, "10.example.com".toList, "/".toList, [], []⟩ none
    "10.example.com".toList (by rfl) (.inl rfl) (by rfl) (by rfl) (by decide) (by decide) hletter
  rw [hrefused] at hok
  cases hok

end Gateway

end SiteReader
