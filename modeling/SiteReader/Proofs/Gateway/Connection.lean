import SiteReader.Proofs.Gateway.Destination
import SiteReader.Proofs.Url.Connection
import SiteReader.Proofs.Url.Host

/-!
# The host that is checked and the host that is connected to

As long as the authority of an accepted URL has no backslash, the transport connects to the very host that was checked
(`connection_host_checked`).  A backslash ends the authority for the transport alone, so that what stands before it decides
where the connection goes, while the check looks at what stands after it (`connection_safe_iff`).
-/

namespace SiteReader.Gateway

/-- All characters of a text are ASCII, and none is a blank or a control character. -/
def IsVisible (cs : List Char) : Prop :=
  ∀ c ∈ cs, 32 < c.toNat ∧ c.toNat < 127

theorem IsVisible.append {a b : List Char} (ha : IsVisible a) (hb : IsVisible b) : IsVisible (a ++ b) := by
  intro c hc
  rcases List.mem_append.mp hc with hc | hc
  · exact ha c hc
  · exact hb c hc

/-- The transport finds a host in an authority, one that the usual policy allows. -/
def SafeAuthority (authority : List Char) : Prop :=
  Url.connectionHost authority ≠ [] ∧ ∃ name, Host.canonicalChars (Url.connectionHost authority) = .ok name ∧
    String.ofList name ∉ Config.standard.blockedHosts ∧ ∀ a : Ipv4, a.IsInternal → name ≠ a.dotted

/-- The transport connects to a host that the usual policy allows. -/
def SafeConnection (url : List Char) : Prop :=
  SafeAuthority (Url.connectionAuthority url)

/-! ### Accepted URLs -/

theorem cleaned_of_visible {cs : List Char} (h : IsVisible cs) : Url.cleaned cs = cs := by
  rw [Url.cleaned_eq_filter fun c hc => (h c (List.mem_of_head? hc)).1, Url.filter_isKept fun c hc => (h c hc).1]

/-- The transport reads the authority of an accepted URL up to the first backslash. -/
theorem connectionAuthority_of_accepted {url : String} {destination : Destination} (hv : IsVisible url.toList)
    (h : Accepted .standard url destination) {parts : Url} (hs : Url.split url.toList = .ok parts) :
    Url.connectionAuthority url.toList = parts.authority.takeWhile (· != '\\') ∧
      Url.bracketsFit parts.authority = true ∧ parts.authority ⊆ url.toList := by
  obtain ⟨found, name, port, hfound, hn, hp, rfl⟩ := ofUrl_eq_ok_iff.mp h.ofUrl_eq
  obtain rfl : parts = found := Except.ok.inj (hs.symm.trans hfound)
  have hscheme : parts.scheme ≠ [] := by
    intro he
    have hs := h.scheme
    rw [he] at hs
    rcases hs with hs | hs
    · exact absurd hs (show String.ofList [] ≠ "http" by decide)
    · exact absurd hs (show String.ofList [] ≠ "https" by decide)
  have hauthority : parts.authority ≠ [] := by
    intro he
    have hhost : parts.host = [] := by rw [Url.host, he]; rfl
    rw [hhost] at hn
    obtain rfl := Except.ok.inj hn
    exact h.host_ne rfl
  obtain ⟨hb, scheme, after, hcs, hall, ha⟩ := Url.split_cases hs hscheme hauthority
  rw [cleaned_of_visible hv] at hcs
  refine ⟨?_, hb, ?_⟩
  · rw [hcs, Url.connectionAuthority_eq hall, ha]
  · rw [hcs, ha]
    exact fun c hc => List.mem_append_right _ ((List.takeWhile_sublist _).subset hc)

theorem isVisible_ascii {cs : List Char} (h : IsVisible cs) : Text.AllAscii cs :=
  fun c hc => Nat.lt_trans (h c hc).2 (by decide)

/-- If the authority of an accepted URL has no backslash, the host that the transport reads in it has the canonical form that
was checked. -/
theorem connection_host_checked {url : String} {destination : Destination} (hv : IsVisible url.toList)
    (h : Accepted .standard url destination) {parts : Url} (hs : Url.split url.toList = .ok parts)
    (hslash : '\\' ∉ parts.authority) :
    Url.connectionAuthority url.toList = parts.authority ∧
      Host.canonicalChars (Url.connectionHost parts.authority) = .ok destination.host.toList := by
  obtain ⟨hauthority, hb, hsub⟩ := connectionAuthority_of_accepted hv h hs
  obtain ⟨found, name, port, hfound, hn, hp, rfl⟩ := ofUrl_eq_ok_iff.mp h.ofUrl_eq
  obtain rfl : parts = found := Except.ok.inj (hs.symm.trans hfound)
  refine ⟨by rw [hauthority, Text.takeWhile_of_all (Text.ne_of_not_mem hslash)], ?_⟩
  rw [Url.connectionHost_eq hb hp, String.toList_ofList]
  rcases hhost : Url.hostAndRest (Url.hostPort parts.authority) with ⟨host, rest⟩
  have hascii : Text.AllAscii host := by
    intro c hc
    have hm : c ∈ Url.hostPort parts.authority := Url.mem_of_mem_hostAndRest (by rw [hhost]; exact hc)
    exact isVisible_ascii hv c (hsub (Url.mem_of_mem_afterLast hm))
  rw [Url.host_eq hhost] at hn
  exact Host.canonicalChars_congr (Host.lowerCase_zone hascii) hn

theorem safeAuthority_of_checked {url : String} {destination : Destination} (h : Accepted .standard url destination)
    {authority : List Char}
    (hn : Host.canonicalChars (Url.connectionHost authority) = .ok destination.host.toList) : SafeAuthority authority := by
  refine ⟨?_, destination.host.toList, hn, ?_, ?_⟩
  · intro he
    rw [he] at hn
    have hempty : ([] : List Char) = destination.host.toList := Except.ok.inj hn
    exact h.host_ne (String.toList_eq_nil_iff.mp hempty.symm)
  · rw [String.ofList_toList]
    exact h.not_blocked
  · intro a ha he
    have hprivate := h.not_private _ isPrivateRange_mem
    rw [← String.ofList_toList (s := destination.host), he, isPrivateRange_dotted ha] at hprivate
    cases hprivate

/-! ### Text before a backslash -/

/-- The URL whose authority has a text before a backslash, and a user and a public host after it. -/
def disguised (front : List Char) : List Char :=
  "http".toList ++ "://".toList ++ (front ++ "\\@example.com/".toList)

theorem connectionAuthority_disguised {front : List Char} (h : ∀ c ∈ front, Url.endsConnection c = false) :
    Url.connectionAuthority (disguised front) = front := by
  have hcut : Text.cut? "://".toList (disguised front) = some ("http".toList, front ++ "\\@example.com/".toList) :=
    Url.cut?_append (by decide) ['/', '/'] (front ++ "\\@example.com/".toList)
  have hall : ∀ c ∈ front, (!Url.endsConnection c) = true := fun c hc => by rw [h c hc]; rfl
  have hhead : "\\@example.com/".toList.head? = some '\\' := by rfl
  have hstop : ∀ c, "\\@example.com/".toList.head? = some c → (!Url.endsConnection c) = false := by
    intro c hc
    rw [← Option.some.inj (hhead.symm.trans hc)]
    decide
  rw [Url.connectionAuthority, hcut]
  exact Text.takeWhile_append_of_stop hall hstop

theorem isVisible_disguised {front : List Char} (h : IsVisible front) : IsVisible (disguised front) := by
  have hscheme : IsVisible ("http".toList ++ "://".toList) := Text.forall_mem (by decide)
  have hhost : IsVisible "\\@example.com/".toList := Text.forall_mem (by decide)
  exact hscheme.append (h.append hhost)

/-- A backslash does not end the authority where the check looks at it. -/
theorem split_disguised {front : List Char} (hv : IsVisible front) (hd : ∀ c ∈ front, c ∉ ['/', '?', '#', '[', ']']) :
    ∃ parts, Url.split (disguised front) = .ok parts ∧ parts.scheme = "http".toList ∧
      parts.authority = front ++ "\\@example.com".toList := by
  have htail : ∀ c ∈ "\\@example.com".toList, c ∉ ['/', '?', '#', '[', ']'] ∧ c.toNat < 127 :=
    Text.forall_mem (by decide)
  have hmem : ∀ c ∈ front ++ "\\@example.com".toList, c ∉ ['/', '?', '#', '[', ']'] ∧ c.toNat < 127 := by
    intro c hc
    rcases List.mem_append.mp hc with hc | hc
    · exact ⟨hd c hc, (hv c hc).2⟩
    · exact htail c hc
  have hnot : ∀ d ∈ ['/', '?', '#', '[', ']'], d ∉ front ++ "\\@example.com".toList :=
    fun d hd hm => (hmem d hm).1 hd
  have hclean : Url.cleaned (disguised front) =
      "http".toList ++ ':' :: '/' :: '/' :: ((front ++ "\\@example.com".toList) ++ ['/']) := by
    rw [cleaned_of_visible (isVisible_disguised hv), List.append_assoc]
    rfl
  obtain ⟨parts, hs, hscheme, hauthority⟩ := Url.split_eq hclean
    (Url.isScheme_of_letters (by decide) (Text.forall_mem (by decide)))
    (Url.not_endsAuthority fun d hd => hnot d (List.mem_append_left ['[', ']'] hd))
    (fun c hc => Option.some.inj hc ▸ by decide)
    (Url.bracketsFit_of_not_mem (hnot '[' (by decide)) (hnot ']' (by decide)))
    (fun c hc => Url.not_disguised (Nat.lt_trans (hmem c hc).2 (by decide)))
  exact ⟨parts, hs, hscheme.trans (by decide), hauthority⟩

theorem accepted_disguised {front : List Char} (hv : IsVisible front) (hd : ∀ c ∈ front, c ∉ ['/', '?', '#', '[', ']']) :
    Accepted .standard (String.ofList (disguised front)) ⟨"http", "example.com"⟩ := by
  obtain ⟨parts, hs, hscheme, hauthority⟩ := split_disguised hv hd
  -- the text before the backslash, and the backslash with it, pass for a user
  have hport : Url.hostPort parts.authority = "example.com".toList := by
    have hshape : front ++ "\\@example.com".toList = (front ++ ['\\']) ++ '@' :: "example.com".toList := by
      rw [List.append_assoc]
      rfl
    rw [hauthority, hshape]
    exact Text.afterLast_append _ (by decide)
  have hhost : Url.hostAndRest (Url.hostPort parts.authority) = ("example.com".toList, []) := by
    rw [hport]
    decide
  have hname : Host.canonicalChars parts.host = .ok "example.com".toList := by
    rw [Url.host_eq hhost]
    rfl
  have hnumber : parts.port = .ok none := by
    rw [Url.port, Url.portText, hhost]
    rfl
  refine ⟨?_, .inl rfl, by decide, by decide, ?_⟩
  · refine ofUrl_eq_ok_iff.mpr ⟨parts, _, none, ?_, hname, hnumber, ?_⟩
    · rw [String.toList_ofList, hs]
    · rw [hscheme]
      decide
  · intro isPrivate hm
    rw [List.mem_singleton.mp hm]
    decide

/-! ### What the connection depends on -/

/-- The connection for an accepted URL goes to an allowed host if and only if its authority has no backslash or what stands
before the first one is safe by itself.  That can be any text at all. -/
theorem connection_safe_iff (resolver : Resolver) :
    (∀ (url : String) (parts : Url), IsVisible url.toList → checkDestination .standard resolver url = .ok () →
      Url.split url.toList = .ok parts →
      (SafeConnection url.toList ↔
        '\\' ∉ parts.authority ∨ SafeAuthority (parts.authority.takeWhile (· != '\\')))) ∧
    ∀ front : List Char, IsVisible front → (∀ c ∈ front, c ∉ ['/', '\\', '?', '#', '[', ']']) →
      checkDestination .standard resolver (String.ofList (disguised front)) = .ok () ∧
        Url.connectionAuthority (disguised front) = front := by
  constructor
  · intro url parts hv hok hs
    obtain ⟨destination, h⟩ := accepted_of_checkDestination hok
    obtain ⟨hauthority, -, -⟩ := connectionAuthority_of_accepted hv h hs
    constructor
    · intro hsafe
      rw [SafeConnection, hauthority] at hsafe
      exact .inr hsafe
    · rintro (hslash | hsafe)
      · obtain ⟨heq, hchecked⟩ := connection_host_checked hv h hs hslash
        rw [SafeConnection, heq]
        exact safeAuthority_of_checked h hchecked
      · rwa [SafeConnection, hauthority]
  · intro front hv hd
    have haccepted : Accepted .standard (String.ofList (disguised front)) ⟨"http", "example.com"⟩ := by
      have hsub : ∀ c ∈ ['/', '?', '#', '[', ']'], c ∈ ['/', '\\', '?', '#', '[', ']'] :=
        Text.forall_mem (by decide)
      exact accepted_disguised hv fun c hc hm => hd c hc (hsub c hm)
    refine ⟨haccepted.checkDestination_eq resolver, connectionAuthority_disguised fun c hc => ?_⟩
    have hne := hd c hc
    simp only [List.mem_cons, List.not_mem_nil, or_false, not_or] at hne
    simp [Url.endsConnection, hne]

theorem connection_safe_to_port :
    IsVisible "https://example.org:8443/a".toList ∧
      checkDestination .standard (fun _ => .ok []) "https://example.org:8443/a" = .ok () ∧
      Url.split "https://example.org:8443/a".toList =
        .ok ⟨"https".toList, "example.org:8443".toList, "/a".toList, [], []⟩ ∧
      SafeConnection "https://example.org:8443/a".toList ∧
    IsVisible "127.0.0.1".toList ∧ (∀ c ∈ "127.0.0.1".toList, c ∉ ['/', '\\', '?', '#', '[', ']']) ∧
      checkDestination .standard (fun _ => .ok []) (String.ofList (disguised "127.0.0.1".toList)) = .ok () ∧
      Url.connectionAuthority (disguised "127.0.0.1".toList) = "127.0.0.1".toList := by
  have hv : IsVisible "https://example.org:8443/a".toList := Text.forall_mem (by decide)
  have hok : checkDestination .standard (fun _ => .ok []) "https://example.org:8443/a" = .ok () := by rfl
  have hs : Url.split "https://example.org:8443/a".toList =
      .ok ⟨"https".toList, "example.org:8443".toList, "/a".toList, [], []⟩ := by rfl
  have hfront : IsVisible "127.0.0.1".toList := Text.forall_mem (by decide)
  have hd : ∀ c ∈ "127.0.0.1".toList, c ∉ ['/', '\\', '?', '#', '[', ']'] := Text.forall_mem (by decide)
  have hsafe := ((connection_safe_iff fun _ => .ok []).1 _ _ hv hok hs).mpr (.inl (by decide))
  exact ⟨hv, hok, hs, hsafe, hfront, hd, (connection_safe_iff fun _ => .ok []).2 _ hfront hd⟩

theorem connection_to_loopback :
    ¬ ∀ url : String, IsVisible url.toList → checkDestination .standard (fun _ => .ok []) url = .ok () →
      SafeConnection url.toList := by
  intro hall
  have hfront : IsVisible "127.0.0.1".toList := Text.forall_mem (by decide)
  have haccepted := accepted_disguised hfront (Text.forall_mem (by decide))
  have hv := isVisible_disguised hfront
  have hsafe := hall (String.ofList (disguised "127.0.0.1".toList)) (by rwa [String.toList_ofList])
    (haccepted.checkDestination_eq _)
  rw [String.toList_ofList, SafeConnection, connectionAuthority_disguised (Text.forall_mem (by decide))] at hsafe
  obtain ⟨-, name, hname, hblocked, -⟩ := hsafe
  have hcanonical : Host.canonicalChars (Url.connectionHost "127.0.0.1".toList) = .ok "127.0.0.1".toList := by decide +kernel
  obtain rfl := Except.ok.inj (hcanonical.symm.trans hname)
  exact hblocked (by decide)

end SiteReader.Gateway
