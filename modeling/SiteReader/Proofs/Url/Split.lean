import SiteReader.Proofs.Text.Basic
import SiteReader.Url.Basic

/-!
# The parts of a URL that was put together

A text of a scheme, a colon, two slashes, an authority and the rest is split into these (`split_parts`, `split_eq`), once
the characters that URLs ignore are gone (`cleaned_eq_filter`).  The host is what the authority has after its last `@`,
before a port and without brackets (`hostAndRest_plain`, `hostAndRest_brackets`), in lower case but for a zone
(`host_eq_lower`, `host_eq_zone`).
-/

namespace SiteReader.Url

/-! ### Characters that are ignored -/

/-- Whether a character stays in a URL. -/
def isKept (c : Char) : Bool :=
  !(c = '\t' || c = '\r' || c = '\n')

theorem cleaned_eq_filter {cs : List Char} (h : ∀ c, cs.head? = some c → 32 < c.toNat) : cleaned cs = cs.filter isKept := by
  unfold cleaned
  cases cs with
  | nil => rfl
  | cons c rest =>
    have hc : ¬ c.toNat ≤ 32 := by have := h c rfl; omega
    rw [List.dropWhile_cons_of_neg (by simpa using hc)]
    rfl

theorem filter_isKept {cs : List Char} (h : ∀ c ∈ cs, 32 < c.toNat) : cs.filter isKept = cs := by
  refine List.filter_eq_self.mpr fun c hc => ?_
  have hlt := h c hc
  have hne : ∀ d : Char, d.toNat ≤ 32 → c ≠ d := by
    rintro d hd rfl
    omega
  simp [isKept, hne '\t' (by decide), hne '\r' (by decide), hne '\n' (by decide)]

/-! ### Splitting -/

/-- A scheme begins with a letter and has no other characters than schemes may have. -/
structure IsScheme (scheme : List Char) : Prop where
  letter : ∃ c, scheme.head? = some c ∧ Text.isAsciiLetter c = true
  all : ∀ c ∈ scheme, isSchemeChar c = true

theorem isScheme_of_letters {scheme : List Char} (hne : scheme ≠ []) (h : ∀ c ∈ scheme, Text.isAsciiLetter c = true) :
    IsScheme scheme := by
  obtain ⟨c, rest, rfl⟩ := List.exists_cons_of_ne_nil hne
  refine ⟨⟨c, rfl, h c List.mem_cons_self⟩, fun d hd => ?_⟩
  simp [isSchemeChar, Text.isAsciiAlphanumeric, h d hd]

theorem cutScheme_append {scheme : List Char} (h : IsScheme scheme) (default after : List Char) :
    cutScheme default (scheme ++ ':' :: after) = (scheme.map Char.toLower, after) := by
  have hs : ∀ c, (':' :: after).head? = some c → isSchemeChar c = false := by
    intro c hc
    obtain rfl := Option.some.inj hc
    decide
  obtain ⟨c, hc, hl⟩ := h.letter
  obtain ⟨rest, rfl⟩ := List.head?_eq_some_iff.mp hc
  unfold cutScheme
  rw [Text.takeWhile_append_of_stop h.all hs, Text.dropWhile_append_of_stop h.all hs]
  exact if_pos hl

/-- A text either has no scheme or begins with one and a colon. -/
theorem cutScheme_eq_or (default cs : List Char) :
    cutScheme default cs = (default, cs) ∨ ∃ scheme rest, IsScheme scheme ∧ cs = scheme ++ ':' :: rest := by
  have hall : ∀ c ∈ cs.takeWhile isSchemeChar, isSchemeChar c = true := List.all_eq_true.mp List.all_takeWhile
  have hcs := List.takeWhile_append_dropWhile (p := isSchemeChar) (l := cs)
  unfold cutScheme
  dsimp only
  split
  next c front rest hfront hrest =>
    split
    next hc => exact .inr ⟨_, rest, ⟨⟨c, by rw [hfront]; rfl, hc⟩, hall⟩, hrest ▸ hcs.symm⟩
    next => exact .inl rfl
  next => exact .inl rfl

theorem not_endsAuthority {cs : List Char} (h : ∀ d ∈ ['/', '?', '#'], d ∉ cs) : ∀ c ∈ cs, endsAuthority c = false := by
  intro c hc
  have hne : ∀ d ∈ ['/', '?', '#'], c ≠ d := fun d hd he => h d hd (he ▸ hc)
  simp [endsAuthority, hne '/' (by decide), hne '?' (by decide), hne '#' (by decide)]

theorem cutAuthority_append {authority rest : List Char} (ha : ∀ c ∈ authority, endsAuthority c = false)
    (hr : ∀ c, rest.head? = some c → endsAuthority c = true) :
    cutAuthority ('/' :: '/' :: (authority ++ rest)) = (authority, rest) := by
  have hall : ∀ c ∈ authority, (!endsAuthority c) = true := fun c hc => by rw [ha c hc]; rfl
  have hstop : ∀ c, rest.head? = some c → (!endsAuthority c) = false := fun c hc => by rw [hr c hc]; rfl
  rw [cutAuthority, Text.takeWhile_append_of_stop hall hstop, Text.dropWhile_append_of_stop hall hstop]

/-- A URL has the scheme and the authority that are cut from its text, and the brackets of the authority fit. -/
theorem parts_of_split {cs : List Char} {url : Url} (h : split cs = .ok url) :
    url.scheme = (cutScheme [] (cleaned cs)).1 ∧ url.authority = (cutAuthority (cutScheme [] (cleaned cs)).2).1 ∧
      bracketsFit url.authority = true := by
  unfold split splitWith at h
  dsimp only at h
  split at h
  next => cases h
  next hfit =>
    split at h
    next => cases h
    next =>
      obtain rfl := Except.ok.inj h
      exact ⟨rfl, rfl, by simpa using hfit⟩

/-- A text is split, if at all, into the scheme and the authority that it was made of. -/
theorem split_parts {cs scheme authority rest : List Char} {url : Url} (h : split cs = .ok url)
    (hc : cleaned cs = scheme ++ ':' :: '/' :: '/' :: (authority ++ rest)) (hs : IsScheme scheme)
    (ha : ∀ c ∈ authority, endsAuthority c = false) (hr : ∀ c, rest.head? = some c → endsAuthority c = true) :
    url.scheme = scheme.map Char.toLower ∧ url.authority = authority := by
  obtain ⟨hscheme, hauthority, -⟩ := parts_of_split h
  rw [hc, cutScheme_append hs] at hscheme hauthority
  rw [cutAuthority_append ha hr] at hauthority
  exact ⟨hscheme, hauthority⟩

/-- A text that was made of a scheme and an authority is split, unless the authority is one that no URL may have. -/
theorem split_eq {cs scheme authority rest : List Char} (hc : cleaned cs = scheme ++ ':' :: '/' :: '/' :: (authority ++ rest))
    (hs : IsScheme scheme) (ha : ∀ c ∈ authority, endsAuthority c = false)
    (hr : ∀ c, rest.head? = some c → endsAuthority c = true) (hb : bracketsFit authority = true)
    (hd : ∀ c ∈ authority, c.toNat ∉ disguisedDelimiters) :
    ∃ url, split cs = .ok url ∧ url.scheme = scheme.map Char.toLower ∧ url.authority = authority := by
  have hany : (authority.any fun c => disguisedDelimiters.contains c.toNat) = false := by simpa using hd
  unfold split splitWith
  rw [hc, cutScheme_append hs]
  simp only [cutAuthority_append ha hr, hb, hany, Bool.not_true, Bool.false_eq_true, ↓reduceIte]
  exact ⟨_, rfl, rfl, rfl⟩

theorem bracketsFit_of_not_mem {authority : List Char} (h : '[' ∉ authority) (hc : ']' ∉ authority) :
    bracketsFit authority = true := by
  have hopen : authority.contains '[' = false := by simpa using h
  have hclose : authority.contains ']' = false := by simpa using hc
  rw [bracketsFit, hopen, hclose]

theorem not_disguised {c : Char} (h : c.toNat < 128) : c.toNat ∉ disguisedDelimiters := by
  have hall : ∀ n ∈ disguisedDelimiters, 128 ≤ n := by decide
  intro hm
  exact absurd (hall _ hm) (by omega)

/-! ### Host and port -/

theorem hostAndRest_plain {host port : List Char} (hb : '[' ∉ host ++ port) (hc : ':' ∉ host)
    (hp : ∀ c, port.head? = some c → c = ':') : hostAndRest (host ++ port) = (host, port) := by
  have hcontains : (host ++ port).contains '[' = false := by simpa using hb
  have hcut : (Text.cutAtFirst ':' (host ++ port)).1 = host := by
    cases port with
    | nil => rw [List.append_nil, Text.cutAtFirst_of_not_mem hc]
    | cons c rest => rw [hp c rfl, Text.cutAtFirst_append hc]
  rw [hostAndRest, hcontains, hcut]
  simp

theorem hostAndRest_brackets {host : List Char} (h : ']' ∉ host) (port : List Char) :
    hostAndRest ('[' :: (host ++ ']' :: port)) = (host, port) := by
  have hopen : Text.cutAtFirst '[' ('[' :: (host ++ ']' :: port)) = ([], host ++ ']' :: port) :=
    @Text.cutAtFirst_append '[' [] List.not_mem_nil (host ++ ']' :: port)
  simp [hostAndRest, hopen, Text.cutAtFirst_append h]

theorem host_eq {url : Url} {host port : List Char} (h : hostAndRest (hostPort url.authority) = (host, port)) :
    url.host = Text.lower (host.takeWhile (· != '%')) ++ host.dropWhile (· != '%') := by
  rw [Url.host, h]

theorem host_eq_lower {url : Url} {host port : List Char} (h : hostAndRest (hostPort url.authority) = (host, port))
    (hp : '%' ∉ host) : url.host = Text.lower host := by
  rw [host_eq h, Text.takeWhile_of_all (Text.ne_of_not_mem hp), Text.dropWhile_of_all (Text.ne_of_not_mem hp),
    List.append_nil]

/-- A zone keeps its capital letters. -/
theorem host_eq_zone {url : Url} {front name port : List Char}
    (h : hostAndRest (hostPort url.authority) = (front ++ '%' :: name, port)) (hp : '%' ∉ front) :
    url.host = Text.lower front ++ '%' :: name := by
  have hstop : ∀ c, ('%' :: name).head? = some c → (c != '%') = false := by simp
  rw [host_eq h, Text.takeWhile_append_of_stop (Text.ne_of_not_mem hp) hstop,
    Text.dropWhile_append_of_stop (Text.ne_of_not_mem hp) hstop]

end SiteReader.Url
