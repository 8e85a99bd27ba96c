import SiteReader.Proofs.Url.Canonical
import SiteReader.Proofs.Url.Origin

/-!
# Hosts as they are written in URLs

A host is written as a name or as an IPv6 address, which stands in brackets and may have a zone (`IsHost`, `HasHost`).  The host
that is read from such a URL is in lower case up to its zone, which makes no difference to its canonical form
(`HasHost.canonical`); and the shortest URL for a host can always be split (`split_plainUrl`).
-/

namespace SiteReader.Url

open Origin (bracketed)

/-! ### The grammar -/

/-- A text of visible characters none of which means anything in an authority or is taken for one that does. -/
structure IsWord (cs : List Char) : Prop where
  ne_nil : cs ≠ []
  visible : ∀ c ∈ cs, 32 < c.toNat
  plain : ∀ c ∈ cs, c ∉ ['/', '?', '#', '@', '[', ']', '%'] ∧ c.toNat ∉ disguisedDelimiters

/-- A host as it is written: a name, as which an IPv4 address counts too, or an IPv6 address that may have a zone. -/
inductive IsHost : List Char → Prop
  | name {cs : List Char} (h : IsWord cs) (hc : ':' ∉ cs) : IsHost cs
  | address {cs : List Char} {a : Ipv6} (h : Ipv6.Literal cs a.groups) : IsHost cs
  | zoned {cs zone : List Char} {a : Ipv6} (h : Ipv6.Literal cs a.groups) (hz : IsWord zone) : IsHost (cs ++ '%' :: zone)

/-- A URL for `http` or `https` with a host as it is written, in brackets if it has colons. -/
inductive HasHost (host : List Char) : List Char → Prop
  | url {scheme user port rest : List Char}
      (hs : scheme.map Char.toLower = "http".toList ∨ scheme.map Char.toLower = "https".toList) (hu : IsUser user)
      (hp : IsPort port) (hr : ∀ c, rest.head? = some c → c ∈ ['/', '?', '#']) :
      HasHost host (scheme ++ "://".toList ++ user ++ bracketed host ++ port ++ rest)

/-- The shortest URL for `http` with a host and a path. -/
def plainUrl (host : List Char) : List Char :=
  "http".toList ++ "://".toList ++ bracketed host ++ ['/']

theorem hasHost_plainUrl (host : List Char) : HasHost host (plainUrl host) := by
  have hplain (front : List Char) : front ++ bracketed host ++ ['/'] = front ++ [] ++ bracketed host ++ [] ++ ['/'] := by
    rw [List.append_nil, List.append_nil]
  have hrest : ∀ c, ['/'].head? = some c → c ∈ ['/', '?', '#'] := by
    intro c hc
    obtain rfl := Option.some.inj hc
    decide
  show HasHost host ("http".toList ++ "://".toList ++ bracketed host ++ ['/'])
  rw [hplain]
  exact @HasHost.url host "http".toList [] [] ['/'] (.inl (by decide)) (.inl rfl) (.inl rfl) hrest

/-! ### The characters of a host -/

/-- A character that may stand in a host. -/
def IsHostChar (c : Char) : Prop :=
  32 < c.toNat ∧ c ∉ ['/', '?', '#', '@', '[', ']'] ∧ c.toNat ∉ disguisedDelimiters

theorem IsWord.isHostChar {cs : List Char} (h : IsWord cs) : ∀ c ∈ cs, IsHostChar c := by
  intro c hc
  obtain ⟨hplain, hdisguised⟩ := h.plain c hc
  exact ⟨h.visible c hc, fun hm => hplain (List.mem_append_left ['%'] hm), hdisguised⟩

theorem isHostChar_of_literal {cs : List Char} {gs : List Nat} (h : Ipv6.Literal cs gs) : ∀ c ∈ cs, IsHostChar c := by
  have hplain : ∀ d ∈ ['/', '?', '#', '@', '[', ']'], Ipv4.isHexDigit d = false ∧ d ≠ ':' ∧ d ≠ '.' :=
    Text.forall_mem (by decide)
  intro c hc
  refine ⟨?_, fun hm => h.not_mem (hplain c hm) hc, not_disguised (h.allAscii c hc)⟩
  rcases h.mem_cases hc with h | rfl | rfl
  · have := Ipv4.isHexDigit_cases h
    omega
  · decide
  · decide

theorem IsHost.isHostChar {host : List Char} (h : IsHost host) : ∀ c ∈ host, IsHostChar c := by
  cases h with
  | name h => exact h.isHostChar
  | address h => exact isHostChar_of_literal h
  | zoned h hz =>
    intro c hc
    rcases List.mem_append.mp hc with hc | hc
    · exact isHostChar_of_literal h c hc
    · rcases List.mem_cons.mp hc with rfl | hc
      · exact ⟨by decide, by decide, by decide⟩
      · exact hz.isHostChar c hc

theorem IsHost.not_mem {host : List Char} (h : IsHost host) {d : Char} (hd : d ∈ ['/', '?', '#', '@', '[', ']']) :
    d ∉ host :=
  fun hm => (h.isHostChar d hm).2.1 hd

theorem mem_bracketed {host : List Char} {c : Char} (h : c ∈ bracketed host) : c ∈ host ∨ c = '[' ∨ c = ']' := by
  unfold bracketed at h
  split at h
  next =>
    simp only [List.cons_append, List.mem_cons, List.mem_append, List.not_mem_nil, or_false] at h
    rcases h with rfl | h | rfl
    · exact .inr (.inl rfl)
    · exact .inl h
    · exact .inr (.inr rfl)
  next => exact .inl h

theorem IsHost.not_mem_bracketed {host : List Char} (h : IsHost host) {d : Char} (hd : d ∈ ['/', '?', '#', '@']) :
    d ∉ bracketed host := by
  intro hm
  rcases mem_bracketed hm with hm | rfl | rfl
  · exact h.not_mem (List.mem_append_left ['[', ']'] hd) hm
  · exact absurd hd (by decide)
  · exact absurd hd (by decide)

theorem IsHost.kept {host : List Char} (h : IsHost host) : (bracketed host).filter isKept = bracketed host := by
  refine filter_isKept fun c hc => ?_
  rcases mem_bracketed hc with hc | rfl | rfl
  · exact (h.isHostChar c hc).1
  · decide
  · decide

/-! ### Reading the host -/

theorem hostAndRest_bracketed {host port : List Char} (h : IsHost host) (hp : IsPort port) :
    hostAndRest (bracketed host ++ port) = (host, port) := by
  unfold bracketed
  split
  next =>
    have hshape : '[' :: host ++ [']'] ++ port = '[' :: (host ++ ']' :: port) := by simp
    rw [hshape]
    exact hostAndRest_brackets (h.not_mem (by decide)) port
  next hcolon =>
    refine hostAndRest_plain ?_ (by simpa using hcolon) fun c hc => ?_
    · exact List.not_mem_append (h.not_mem (by decide)) (hp.not_mem (by decide))
    · rcases hp with rfl | ⟨digits, rfl, -⟩
      · cases hc
      · exact (Option.some.inj hc).symm

/-- The canonical form of a host stays the same when the host is read from a URL, where it is in lower case but for its zone. -/
theorem IsHost.canonical_iff {host : List Char} (h : IsHost host) (name : List Char) :
    Host.canonicalChars (Text.lower (host.takeWhile (· != '%')) ++ host.dropWhile (· != '%')) = .ok name ↔
      Host.canonicalChars host = .ok name := by
  have hplain (hp : '%' ∉ host) :
      Host.canonicalChars (Text.lower (host.takeWhile (· != '%')) ++ host.dropWhile (· != '%')) = .ok name ↔
        Host.canonicalChars host = .ok name := by
    have hlower : Host.lowerCase (Text.lower host) = Host.lowerCase host := by
      rw [Host.lowerCase, Host.lowerCase, Text.lower_lower]
    rw [Text.takeWhile_of_all (Text.ne_of_not_mem hp), Text.dropWhile_of_all (Text.ne_of_not_mem hp), List.append_nil]
    exact ⟨Host.canonicalChars_congr hlower, Host.canonicalChars_congr hlower.symm⟩
  cases h with
  | name h => exact hplain fun hm => (h.plain '%' hm).1 (by decide)
  | address h => exact hplain (h.not_mem (by decide))
  | @zoned cs zone a h hz =>
    have hstop : ∀ c, ('%' :: zone).head? = some c → (c != '%') = false := by simp
    have hcs : ∀ c ∈ cs, (c != '%') = true := Text.ne_of_not_mem (h.not_mem (by decide))
    have hlower : Host.SpellsIpv6 (Text.lower cs ++ '%' :: zone) a :=
      ⟨_, _, Text.lower_eq_map h.allAscii ▸ h.lower, .inr ⟨zone, rfl⟩, rfl⟩
    have hhost : Host.SpellsIpv6 (cs ++ '%' :: zone) a := ⟨cs, _, h, .inr ⟨zone, rfl⟩, rfl⟩
    rw [Text.takeWhile_append_of_stop hcs hstop, Text.dropWhile_append_of_stop hcs hstop, hlower.canonicalChars_eq,
      hhost.canonicalChars_eq]

/-- If a URL with such a host can be split, it is for `http` or `https`, and its host has the canonical form of the one that is
written. -/
theorem HasHost.canonical {host cs : List Char} (h : HasHost host cs) (hh : IsHost host) {url : Url}
    (hurl : split cs = .ok url) : (url.scheme = "http".toList ∨ url.scheme = "https".toList) ∧
      ∀ name, Host.canonicalChars url.host = .ok name ↔ Host.canonicalChars host = .ok name := by
  cases h with
  | @url scheme user port rest hs hu hp hr =>
    have hends : ∀ d ∈ ['/', '?', '#'], d ∉ bracketed host :=
      fun d hd => hh.not_mem_bracketed (List.mem_append_left ['@'] hd)
    obtain ⟨hscheme, ha⟩ := authority_of_written hs hu hends hp hr hurl
    rw [hh.kept] at ha
    have hat : '@' ∉ bracketed host ++ port := List.not_mem_append (hh.not_mem_bracketed (by decide)) (hp.not_mem (by decide))
    have hhost : hostAndRest (hostPort url.authority) = (host, port) := by
      rw [ha, hostPort_user hu.kept hat, hostAndRest_bracketed hh hp]
    refine ⟨hscheme, fun name => ?_⟩
    rw [host_eq hhost]
    exact hh.canonical_iff name

/-! ### Plain URLs -/

/-- An IPv6 address may stand in brackets, with a zone or without. -/
theorem isBracketHost_of_literal {cs zone : List Char} {gs : List Nat} (h : Ipv6.Literal cs gs)
    (hz : zone = [] ∨ ∃ name, zone = '%' :: name ∧ name ≠ [] ∧ '%' ∉ name) : isBracketHost (cs ++ zone) = true := by
  obtain ⟨address, hparse, -⟩ := h.parse?_eq
  have hvalid : Ipv6.isValidWithZone (cs ++ zone) = true := by
    have hpercent : '%' ∉ cs := h.not_mem (by decide)
    unfold Ipv6.isValidWithZone
    rcases hz with rfl | ⟨name, rfl, hne, hname⟩
    · rw [List.append_nil, Text.cutAtFirst_of_not_mem hpercent]
      simp [hparse, hpercent]
    · rw [Text.cutAtFirst_append hpercent]
      simp [hparse, hne, hname]
  unfold isBracketHost
  split
  next r heq =>
    -- an address does not begin with a letter that is no digit
    obtain ⟨c, rest, rfl⟩ := List.exists_cons_of_ne_nil (List.ne_nil_of_mem h.colon_mem)
    obtain rfl := (List.cons.inj heq).1
    exact absurd List.mem_cons_self (h.not_mem (c := 'v') (by decide))
  next => exact hvalid

theorem IsHost.isBracketHost {host : List Char} (h : IsHost host) (hc : ':' ∈ host) : isBracketHost host = true := by
  cases h with
  | name _ hnot => exact absurd hc hnot
  | address h =>
    have := isBracketHost_of_literal h (.inl rfl)
    rwa [List.append_nil] at this
  | zoned h hz => exact isBracketHost_of_literal h (.inr ⟨_, rfl, hz.ne_nil, fun hm => (hz.plain '%' hm).1 (by decide)⟩)

theorem bracketsFit_bracketed {host : List Char} (h : IsHost host) : bracketsFit (bracketed host) = true := by
  by_cases hcolon : ':' ∈ host
  · have hshape : bracketed host = '[' :: (host ++ [']']) := if_pos (by simpa using hcolon)
    have hat : '@' ∉ bracketed host := h.not_mem_bracketed (by decide)
    have hread : hostAndRest ('[' :: (host ++ [']'])) = (host, []) := hostAndRest_brackets (h.not_mem (by decide)) []
    have hopen : Text.cutAtFirst '[' ('[' :: (host ++ [']'])) = ([], host ++ [']']) :=
      @Text.cutAtFirst_append '[' [] List.not_mem_nil (host ++ [']'])
    rw [hshape] at hat ⊢
    simp [bracketsFit, hostPort, Text.afterLast_of_not_mem hat, hread, hopen, h.isBracketHost hcolon]
  · have hshape : bracketed host = host := if_neg (by simpa using hcolon)
    rw [hshape]
    exact bracketsFit_of_not_mem (h.not_mem (by decide)) (h.not_mem (by decide))

/-- The shortest URL with a host can be split. -/
theorem split_plainUrl {host : List Char} (h : IsHost host) :
    ∃ url, split (plainUrl host) = .ok url ∧ url.scheme = "http".toList ∧ url.port = .ok none := by
  have hclean : cleaned ("http".toList ++ "://".toList ++ bracketed host ++ ['/']) =
      "http".toList ++ ':' :: '/' :: '/' :: (bracketed host ++ ['/']) := by
    rw [cleaned_eq_filter]
    · rw [List.filter_append, List.filter_append, List.filter_append, h.kept]
      simp [isKept]
    · intro c hc
      obtain rfl := Option.some.inj hc
      decide
  have hends : ∀ c ∈ bracketed host, endsAuthority c = false :=
    not_endsAuthority fun d hd => h.not_mem_bracketed (List.mem_append_left ['@'] hd)
  have hrest : ∀ c, ['/'].head? = some c → endsAuthority c = true := by
    intro c hc
    obtain rfl := Option.some.inj hc
    decide
  have hdisguised : ∀ c ∈ bracketed host, c.toNat ∉ disguisedDelimiters := by
    intro c hc
    rcases mem_bracketed hc with hc | rfl | rfl
    · exact (h.isHostChar c hc).2.2
    · decide
    · decide
  obtain ⟨url, hsplit, hscheme, ha⟩ := split_eq hclean (isScheme_of_letters (by decide) (Text.forall_mem (by decide))) hends
    hrest (bracketsFit_bracketed h) hdisguised
  refine ⟨url, hsplit, hscheme, ?_⟩
  have hread := hostAndRest_bracketed h (.inl rfl : IsPort [])
  have hat : '@' ∉ bracketed host := h.not_mem_bracketed (by decide)
  rw [List.append_nil] at hread
  have hport : url.portText = [] := by
    rw [portText, ha, hostPort, Text.afterLast_of_not_mem hat, hread]
    rfl
  rw [port, hport]
  rfl

end SiteReader.Url
