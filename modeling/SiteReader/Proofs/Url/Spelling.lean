import SiteReader.Proofs.Url.Host
import SiteReader.Proofs.Url.Split

/-!
# URLs that spell an address

`UrlSpelling` is the grammar of the URLs whose host is some spelling of an IPv4 address, with user, port and whatever comes
after the host left open.  If such a URL is split at all, the canonical form of its host is the dotted quad of the address
(`UrlSpelling.canonical`).
-/

namespace SiteReader

/-! ### The grammar -/

namespace Url

/-- What may stand before a host. -/
def IsUser (user : List Char) : Prop :=
  user = [] ∨ ∃ name, user = name ++ ['@'] ∧ ∀ c ∈ name, c ∉ ['/', '?', '#']

/-- What may stand after a host. -/
def IsPort (port : List Char) : Prop :=
  port = [] ∨ ∃ digits, port = ':' :: digits ∧ ∀ c ∈ digits, Text.isAsciiDigit c = true

/-- The zone of an IPv6 address. -/
def IsZone (zone : List Char) : Prop :=
  zone = [] ∨ ∃ name, zone = '%' :: name ∧ ∀ c ∈ name, c ∉ ['/', '?', '#', '@', ']']

/-- A host that spells an IPv4 address: its parts with points after them, or an IPv6 address that it is mapped to. -/
inductive HostSpelling : List Char → Ipv4 → Prop
  | parts {cs points : List Char} {a : Ipv4} (h : Ipv4.Parts 4 cs a.value) (hp : ∀ c ∈ points, c = '.') :
      HostSpelling (cs ++ points) a
  | mapped {cs zone : List Char} {a : Ipv4} (h : Ipv6.Literal cs (Host.mappedGroups a)) (hz : IsZone zone) :
      HostSpelling ('[' :: (cs ++ zone ++ [']'])) a

/-- A URL for `http` or `https` whose host spells an IPv4 address. -/
inductive UrlSpelling : List Char → Ipv4 → Prop
  | url {scheme user host port rest : List Char} {a : Ipv4}
      (hs : scheme.map Char.toLower = "http".toList ∨ scheme.map Char.toLower = "https".toList) (hu : IsUser user)
      (hh : HostSpelling host a) (hp : IsPort port) (hr : ∀ c, rest.head? = some c → c ∈ ['/', '?', '#']) :
      UrlSpelling (scheme ++ "://".toList ++ user ++ host ++ port ++ rest) a

/-! ### Schemes -/

theorem isAsciiLetter_of_toLower {c : Char} (h : Text.isAsciiLetter c.toLower = true) :
    Text.isAsciiLetter c = true := by
  unfold Char.toLower at h
  split at h
  next hc =>
    have hle : 65 ≤ c.toNat ∧ c.toNat ≤ 90 := hc
    simp [Text.isAsciiLetter, hle]
  next => exact h

theorem lt_of_isAsciiLetter {c : Char} (h : Text.isAsciiLetter c = true) : 32 < c.toNat := by
  simp only [Text.isAsciiLetter, Bool.or_eq_true, Bool.and_eq_true, decide_eq_true_eq] at h
  omega

theorem isAsciiLetter_of_scheme {scheme : List Char}
    (hs : scheme.map Char.toLower = "http".toList ∨ scheme.map Char.toLower = "https".toList) :
    scheme ≠ [] ∧ ∀ c ∈ scheme, Text.isAsciiLetter c = true := by
  have hletters : ∀ c ∈ scheme.map Char.toLower, Text.isAsciiLetter c = true := by
    rcases hs with hs | hs <;> rw [hs] <;> exact Text.forall_mem (by decide)
  refine ⟨?_, fun c hc => isAsciiLetter_of_toLower (hletters _ (List.mem_map_of_mem hc))⟩
  rintro rfl
  rcases hs with hs | hs <;> cases hs

/-! ### Without the characters that are ignored -/

theorem isKept_of_lt {c : Char} (h : 32 < c.toNat) : isKept c = true := by
  have hm : [c].filter isKept = [c] := filter_isKept (by simpa using h)
  simpa using hm

theorem IsUser.kept {user : List Char} (h : IsUser user) : IsUser (user.filter isKept) := by
  rcases h with rfl | ⟨name, rfl, hname⟩
  · exact .inl rfl
  · refine .inr ⟨name.filter isKept, ?_, fun c hc => hname c (List.mem_filter.mp hc).1⟩
    rw [List.filter_append]
    rfl

theorem IsZone.kept {zone : List Char} (h : IsZone zone) : IsZone (zone.filter isKept) := by
  rcases h with rfl | ⟨name, rfl, hname⟩
  · exact .inl rfl
  · exact .inr ⟨name.filter isKept, rfl, fun c hc => hname c (List.mem_filter.mp hc).1⟩

theorem IsPort.kept {port : List Char} (h : IsPort port) : port.filter isKept = port := by
  refine List.filter_eq_self.mpr fun c hc => isKept_of_lt ?_
  rcases h with rfl | ⟨digits, rfl, hd⟩
  · cases hc
  · rcases List.mem_cons.mp hc with rfl | hc
    · decide
    · have := Ipv4.isAsciiDigit_cases (hd c hc)
      omega

theorem HostSpelling.kept {host : List Char} {a : Ipv4} (h : HostSpelling host a) :
    HostSpelling (host.filter isKept) a := by
  cases h with
  | @parts cs points _ h hp =>
    have hcs : cs.filter isKept = cs := by
      refine List.filter_eq_self.mpr fun c hc => ?_
      rcases h.mem_cases hc with (h | rfl | rfl) | rfl
      · exact isKept_of_lt (by have := Ipv4.isHexDigit_cases h; omega)
      · rfl
      · rfl
      · rfl
    rw [List.filter_append, hcs]
    exact .parts h fun c hc => hp c (List.mem_filter.mp hc).1
  | @mapped cs zone _ h hz =>
    have hcs : cs.filter isKept = cs := by
      refine List.filter_eq_self.mpr fun c hc => ?_
      rcases h.mem_cases hc with h | rfl | rfl
      · exact isKept_of_lt (by have := Ipv4.isHexDigit_cases h; omega)
      · rfl
      · rfl
    have hb : ('[' :: (cs ++ zone ++ [']'])).filter isKept = '[' :: (cs ++ zone.filter isKept ++ [']']) := by
      rw [List.filter_cons_of_pos rfl, List.filter_append, List.filter_append, hcs]
      rfl
    rw [hb]
    exact .mapped h hz.kept

/-! ### Reading the host -/

/-- The characters of a host that spells an address do not end the authority, and no `@` is among them. -/
theorem HostSpelling.not_mem {host : List Char} {a : Ipv4} (h : HostSpelling host a) {d : Char}
    (hd : d ∈ ['/', '?', '#', '@']) : d ∉ host := by
  have hdelimiters : ∀ d ∈ ['/', '?', '#', '@'], (Ipv4.isHexDigit d = false ∧ d ≠ 'x' ∧ d ≠ 'X' ∧ d ≠ '.') ∧
      d ≠ ':' ∧ d ≠ '%' ∧ d ≠ '[' ∧ d ≠ ']' := Text.forall_mem (by decide)
  obtain ⟨hpart, hcolon, hpercent, hopen, hclose⟩ := hdelimiters d hd
  cases h with
  | parts h hp =>
    intro hm
    rcases List.mem_append.mp hm with hm | hm
    · exact h.not_mem hpart hm
    · exact hpart.2.2.2 (hp d hm)
  | mapped h hz =>
    intro hm
    rcases List.mem_cons.mp hm with hm | hm
    · exact hopen hm
    · rcases List.mem_append.mp hm with hm | hm
      · rcases List.mem_append.mp hm with hm | hm
        · exact h.not_mem ⟨hpart.1, hcolon, hpart.2.2.2⟩ hm
        · rcases hz with rfl | ⟨name, rfl, hname⟩
          · cases hm
          · rcases List.mem_cons.mp hm with hm | hm
            · exact hpercent hm
            · exact hname d hm (List.mem_append_left [']'] hd)
      · exact hclose (List.mem_singleton.mp hm)

theorem IsPort.not_mem {port : List Char} (h : IsPort port) {d : Char} (hd : d ∈ ['/', '?', '#', '@', '[']) :
    d ∉ port := by
  have hdelimiters : ∀ d ∈ ['/', '?', '#', '@', '['], Text.isAsciiDigit d = false ∧ d ≠ ':' :=
    Text.forall_mem (by decide)
  have hdelimiter := hdelimiters d hd
  rcases h with rfl | ⟨digits, rfl, hdigits⟩
  · exact List.not_mem_nil
  · intro hm
    rcases List.mem_cons.mp hm with hm | hm
    · exact hdelimiter.2 hm
    · have := hdigits d hm
      rw [hdelimiter.1] at this
      cases this

theorem hostPort_user {user tail : List Char} (h : IsUser user) (ht : '@' ∉ tail) : hostPort (user ++ tail) = tail := by
  rcases h with rfl | ⟨name, rfl, -⟩
  · exact Text.afterLast_of_not_mem ht
  · rw [hostPort, List.append_assoc, List.singleton_append, Text.afterLast_append name ht]

theorem host_of_parts {cs points port : List Char} {n : Nat} (h : Ipv4.Parts 4 cs n) (hpoints : ∀ c ∈ points, c = '.')
    (hp : IsPort port) : hostAndRest (cs ++ points ++ port) = (cs ++ points, port) := by
  have hpart : ∀ d ∈ ['[', ':'], Ipv4.isHexDigit d = false ∧ d ≠ 'x' ∧ d ≠ 'X' ∧ d ≠ '.' :=
    Text.forall_mem (by decide)
  have hnot : ∀ d ∈ ['[', ':'], d ∉ cs ++ points := by
    intro d hd hm
    rcases List.mem_append.mp hm with hm | hm
    · exact h.not_mem (hpart d hd) hm
    · exact (hpart d hd).2.2.2 (hpoints d hm)
  have hb : '[' ∉ cs ++ points ++ port := List.not_mem_append (hnot '[' (by decide)) (hp.not_mem (by decide))
  have hhead : ∀ c, port.head? = some c → c = ':' := by
    intro c hc
    rcases hp with rfl | ⟨digits, rfl, -⟩
    · cases hc
    · exact (Option.some.inj hc).symm
  exact hostAndRest_plain hb (hnot ':' (by decide)) hhead

theorem host_of_mapped {cs zone : List Char} {gs : List Nat} (h : Ipv6.Literal cs gs) (hz : IsZone zone)
    (port : List Char) : hostAndRest ('[' :: (cs ++ zone ++ [']']) ++ port) = (cs ++ zone, port) := by
  have hclose : ']' ∉ cs ++ zone := by
    refine List.not_mem_append (h.not_mem (by decide)) ?_
    rcases hz with rfl | ⟨name, rfl, hname⟩
    · exact List.not_mem_nil
    · intro hm
      rcases List.mem_cons.mp hm with hm | hm
      · exact absurd hm (by decide)
      · exact hname ']' hm (by decide)
  have hshape : '[' :: (cs ++ zone ++ [']']) ++ port = '[' :: ((cs ++ zone) ++ ']' :: port) := by simp
  rw [hshape]
  exact hostAndRest_brackets hclose port

/-- The canonical form of a host that spells an address is the dotted quad of the address. -/
theorem HostSpelling.canonical {user host port : List Char} {a : Ipv4} (h : HostSpelling host a) (hu : IsUser user)
    (hp : IsPort port) {url : Url} (ha : url.authority = user ++ (host ++ port)) :
    Host.canonicalChars url.host = .ok a.dotted := by
  have hat : '@' ∉ host ++ port := List.not_mem_append (h.not_mem (by decide)) (hp.not_mem (by decide))
  have hhost : hostPort url.authority = host ++ port := by rw [ha, hostPort_user hu hat]
  cases h with
  | @parts cs points _ h hpoints =>
    have hascii : Text.AllAscii (cs ++ points) :=
      h.allAscii.append fun c hc => by rw [hpoints c hc]; decide
    have hpercent : '%' ∉ cs ++ points :=
      List.not_mem_append (h.not_mem (by decide)) fun hm => absurd (hpoints _ hm) (by decide)
    have hsame : points.map Text.lowerChar = points :=
      Text.map_lowerChar_of_lt fun c hc => by rw [hpoints c hc]; decide
    refine Host.canonicalChars_of_parts h hpoints ?_
    rw [host_eq_lower (hhost ▸ host_of_parts h hpoints hp) hpercent, Text.lower_lower, Text.lower_eq_map hascii,
      List.map_append, hsame]
  | @mapped cs zone _ h hz =>
    have hspelled := host_of_mapped h hz port
    have hpercent : '%' ∉ cs := h.not_mem (by decide)
    rw [← hhost] at hspelled
    refine Host.canonicalChars_of_literal h.lower ?_
    rcases hz with rfl | ⟨name, rfl, -⟩
    · left
      rw [List.append_nil] at hspelled
      rw [host_eq_lower hspelled hpercent, Text.lower_lower, Text.lower_eq_map h.allAscii]
    · right
      -- the zone may have any characters, so that lowering goes by the character only up to the percent sign
      have hascii : Text.AllAscii (cs.map Text.lowerChar ++ ['%']) :=
        h.allAscii.map_lowerChar.append (by simp [Text.AllAscii])
      refine ⟨Text.lowerAfter (cs.map Text.lowerChar ++ ['%']).reverse name, ?_⟩
      rw [host_eq_zone hspelled hpercent, Text.lower_eq_map h.allAscii, ← List.singleton_append, ← List.append_assoc,
        Text.lower_append hascii, List.map_append, Text.map_lowerChar_map_lowerChar, List.append_assoc]
      rfl

/-! ### Whole URLs -/

theorem IsUser.not_mem {user : List Char} (h : IsUser user) {d : Char} (hd : d ∈ ['/', '?', '#']) : d ∉ user := by
  rcases h with rfl | ⟨name, rfl, hname⟩
  · exact List.not_mem_nil
  · intro hm
    rcases List.mem_append.mp hm with hm | hm
    · exact hname d hm hd
    · rw [List.mem_singleton.mp hm] at hd
      exact absurd hd (by decide)

theorem endsAuthority_of_kept {rest : List Char} (h : ∀ c, rest.head? = some c → c ∈ ['/', '?', '#']) :
    ∀ c, (rest.filter isKept).head? = some c → endsAuthority c = true := by
  have hends : ∀ d ∈ ['/', '?', '#'], isKept d = true ∧ endsAuthority d = true := Text.forall_mem (by decide)
  intro c hc
  cases rest with
  | nil => cases hc
  | cons d tail =>
    obtain ⟨hkept, hd⟩ := hends d (h d rfl)
    rw [List.filter_cons_of_pos hkept] at hc
    rwa [← Option.some.inj hc]

/-- A URL for `http` or `https` that can be split has the user, the host and the port it was made of as its authority. -/
theorem authority_of_written {scheme user host port rest : List Char}
    (hs : scheme.map Char.toLower = "http".toList ∨ scheme.map Char.toLower = "https".toList) (hu : IsUser user)
    (hh : ∀ d ∈ ['/', '?', '#'], d ∉ host) (hp : IsPort port)
    (hr : ∀ c, rest.head? = some c → c ∈ ['/', '?', '#']) {url : Url}
    (hurl : split (scheme ++ "://".toList ++ user ++ host ++ port ++ rest) = .ok url) :
    (url.scheme = "http".toList ∨ url.scheme = "https".toList) ∧
      url.authority = user.filter isKept ++ (host.filter isKept ++ port) := by
  obtain ⟨hne, hletters⟩ := isAsciiLetter_of_scheme hs
  have hlt : ∀ c ∈ scheme, 32 < c.toNat := fun c hc => lt_of_isAsciiLetter (hletters c hc)
  have hclean : cleaned (scheme ++ "://".toList ++ user ++ host ++ port ++ rest) =
      scheme ++ ':' :: '/' :: '/' :: ((user.filter isKept ++ (host.filter isKept ++ port)) ++ rest.filter isKept) := by
    rw [cleaned_eq_filter]
    · simp only [List.filter_append, filter_isKept hlt, hp.kept, List.append_assoc]
      rfl
    · intro c hc
      obtain ⟨d, tail, rfl⟩ := List.exists_cons_of_ne_nil hne
      obtain rfl := Option.some.inj hc
      exact hlt _ List.mem_cons_self
  have hauthority : ∀ c ∈ user.filter isKept ++ (host.filter isKept ++ port), endsAuthority c = false := by
    refine not_endsAuthority fun d hd => List.not_mem_append (hu.kept.not_mem hd) ?_
    exact List.not_mem_append (fun hm => hh d hd (List.mem_filter.mp hm).1)
      (hp.not_mem (List.mem_append_left ['@', '['] hd))
  obtain ⟨hscheme, ha⟩ := split_parts hurl hclean (isScheme_of_letters hne hletters) hauthority (endsAuthority_of_kept hr)
  exact ⟨hscheme ▸ hs, ha⟩

/-- If a URL that spells an address can be split, it is for `http` or `https`, and the canonical form of its host is the dotted
quad of the address. -/
theorem UrlSpelling.canonical {cs : List Char} {a : Ipv4} (h : UrlSpelling cs a) {url : Url} (hurl : split cs = .ok url) :
    (url.scheme = "http".toList ∨ url.scheme = "https".toList) ∧ Host.canonicalChars url.host = .ok a.dotted := by
  cases h with
  | @url scheme user host port rest _ hs hu hh hp hr =>
    have hends : ∀ d ∈ ['/', '?', '#'], d ∉ host := fun d hd => hh.not_mem (List.mem_append_left ['@'] hd)
    obtain ⟨hscheme, ha⟩ := authority_of_written hs hu hends hp hr hurl
    -- a host loses characters of its zone at most, and still spells the address without them
    exact ⟨hscheme, hh.kept.canonical hu.kept hp ha⟩

end Url

end SiteReader
