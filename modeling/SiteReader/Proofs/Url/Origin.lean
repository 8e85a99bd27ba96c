import SiteReader.Proofs.Address.Numeral
import SiteReader.Proofs.Text.Lower
import SiteReader.Proofs.Url.Connection
import SiteReader.Proofs.Url.Spelling
import SiteReader.Url.Origin

/-!
# Origins

The keys for the cookies of a URL are the printed forms of its origin (`exists_origin`): scheme, host, and the port unless it is
the usual one.  The printed form of an origin can be read in one way only (`Origin.key_injective`), and it is neither a host nor
a host with a port (`Origin.key_ne`), since no host has a slash.
-/

namespace SiteReader.Url

/-- Scheme, host, and the port if it is not the usual one of the scheme. -/
structure Origin where
  scheme : List Char
  host : List Char
  port? : Option Nat
deriving DecidableEq, Repr

/-- The port, if there is one that is not the usual one of the scheme. -/
def effectivePort? (scheme : List Char) (port? : Option Nat) : Option Nat :=
  if port? = defaultPort? scheme then none else port?

/-- The origin of a URL. -/
def originOf (text : String) : Except Fault Origin := do
  let url ← split text.toList
  return ⟨url.scheme, url.host, effectivePort? url.scheme (← url.port)⟩

namespace Origin

/-! ### Printed forms -/

/-- A host in brackets, if it has colons. -/
def bracketed (host : List Char) : List Char :=
  if host.contains ':' then '[' :: host ++ [']'] else host

/-- A port after its colon. -/
def portSuffix : Option Nat → List Char
  | none => []
  | some port => ':' :: Nat.toDigits 10 port

/-- Host and port of an origin. -/
def hostPort (origin : Origin) : List Char :=
  bracketed origin.host ++ portSuffix origin.port?

/-- The printed form of an origin. -/
def key (origin : Origin) : List Char :=
  origin.scheme ++ "://".toList ++ origin.hostPort

theorem hostWithPort_eq (scheme host : List Char) (port? : Option Nat) :
    hostWithPort scheme host port? = hostPort ⟨scheme, host, effectivePort? scheme port?⟩ := by
  unfold hostWithPort hostPort bracketed effectivePort?
  cases port? with
  | none => simp [portSuffix]
  | some port =>
    by_cases husual : some port = defaultPort? scheme
    · simp [husual, portSuffix]
    · simp only [husual, ↓reduceIte, portSuffix]

/-! ### Ports -/

theorem portSuffix_injective {p q : Option Nat} (h : portSuffix p = portSuffix q) : p = q := by
  cases p with
  | none =>
    cases q with
    | none => rfl
    | some n => cases h
  | some m =>
    cases q with
    | none => cases h
    | some n => exact congrArg some (Ipv4.decimal_injective (List.cons.inj h).2)

theorem not_mem_portSuffix {c : Char} (hc : c ≠ ':') (hd : Text.isAsciiDigit c = false) (p : Option Nat) :
    c ∉ portSuffix p := by
  cases p with
  | none => exact List.not_mem_nil
  | some port =>
    intro h
    have hdigit := Ipv4.isAsciiDigit_of_mem_decimal ((List.mem_cons.mp h).resolve_left hc)
    rw [hd] at hdigit
    cases hdigit

theorem head_portSuffix (p : Option Nat) : ∀ c, (portSuffix p).head? = some c → (c != ':') = false := by
  intro c hc
  cases p with
  | none => cases hc
  | some port =>
    obtain rfl := Option.some.inj hc
    rfl

/-! ### Reading the printed forms -/

/-- What follows the first colon of a bracketed host has a bracket, and what follows the one of a port has none. -/
theorem bracketed_ne {host other : List Char} (h : ':' ∈ host) (ho : ':' ∉ other) (p q : Option Nat) :
    '[' :: host ++ [']'] ++ portSuffix p ≠ other ++ portSuffix q := by
  intro heq
  obtain ⟨before, after, rfl, hbefore⟩ := List.eq_append_cons_of_mem h
  have hleft : ('[' :: (before ++ ':' :: after) ++ [']'] ++ portSuffix p).dropWhile (· != ':') =
      ':' :: (after ++ ']' :: portSuffix p) := by
    have hsplit : '[' :: (before ++ ':' :: after) ++ [']'] ++ portSuffix p =
        ('[' :: before) ++ ':' :: (after ++ ']' :: portSuffix p) := by simp
    have hfront : ':' ∉ '[' :: before := by
      intro hmem
      rcases List.mem_cons.mp hmem with hbracket | hmem
      · cases hbracket
      · exact hbefore hmem
    rw [hsplit]
    exact Text.dropWhile_append_of_stop (Text.ne_of_not_mem hfront) (by simp)
  have hright : (other ++ portSuffix q).dropWhile (· != ':') = portSuffix q :=
    Text.dropWhile_append_of_stop (Text.ne_of_not_mem ho) (head_portSuffix q)
  rw [heq, hright] at hleft
  have hmem : ']' ∈ portSuffix q := by
    rw [hleft]
    simp
  exact not_mem_portSuffix (by decide) (by decide) q hmem

/-- A host and a port are told by their printed form. -/
theorem bracketed_injective {host other : List Char} {p q : Option Nat}
    (h : bracketed host ++ portSuffix p = bracketed other ++ portSuffix q) : host = other ∧ p = q := by
  unfold bracketed at h
  by_cases hc : ':' ∈ host
  · by_cases ho : ':' ∈ other
    · -- the last closing bracket ends the host
      rw [if_pos (by simpa using hc), if_pos (by simpa using ho)] at h
      have hcut := congrArg (Text.cutAtLast? ']') h
      simp only [List.append_assoc, List.singleton_append] at hcut
      rw [Text.cutAtLast?_append _ (not_mem_portSuffix (by decide) (by decide) p),
        Text.cutAtLast?_append _ (not_mem_portSuffix (by decide) (by decide) q)] at hcut
      obtain ⟨hhost, hport⟩ := Prod.mk.inj (Option.some.inj hcut)
      exact ⟨(List.cons.inj hhost).2, portSuffix_injective hport⟩
    · rw [if_pos (by simpa using hc), if_neg (by simpa using ho)] at h
      exact absurd h (bracketed_ne hc ho p q)
  · by_cases ho : ':' ∈ other
    · rw [if_neg (by simpa using hc), if_pos (by simpa using ho)] at h
      exact absurd h.symm (bracketed_ne ho hc q p)
    · -- the first colon ends the host
      rw [if_neg (by simpa using hc), if_neg (by simpa using ho)] at h
      have hhost := congrArg (List.takeWhile (· != ':')) h
      rw [Text.takeWhile_append_of_stop (Text.ne_of_not_mem hc) (head_portSuffix p),
        Text.takeWhile_append_of_stop (Text.ne_of_not_mem ho) (head_portSuffix q)] at hhost
      subst hhost
      exact ⟨rfl, portSuffix_injective (List.append_cancel_left h)⟩

/-- An origin is told by its printed form. -/
theorem key_injective {a b : Origin} (ha : ':' ∉ a.scheme) (hb : ':' ∉ b.scheme) (h : a.key = b.key) : a = b := by
  have hcut := congrArg (Text.cutAtFirst ':') h
  have hkey (o : Origin) : o.key = o.scheme ++ ':' :: ('/' :: '/' :: o.hostPort) := by simp [key]
  rw [hkey, hkey, Text.cutAtFirst_append ha, Text.cutAtFirst_append hb] at hcut
  obtain ⟨hscheme, hrest⟩ := Prod.mk.inj hcut
  obtain ⟨hhost, hport⟩ := bracketed_injective (List.cons.inj (List.cons.inj hrest).2).2
  cases a
  cases b
  simp_all

/-! ### Slashes -/

theorem slash_mem_key (origin : Origin) : '/' ∈ origin.key := by
  simp [key]

theorem slash_not_mem_hostPort {origin : Origin} (h : '/' ∉ origin.host) : '/' ∉ origin.hostPort := by
  have hport := not_mem_portSuffix (c := '/') (by decide) (by decide) origin.port?
  unfold hostPort bracketed
  split <;> simp [h, hport]

/-- The printed form of an origin is neither a host nor a host with a port. -/
theorem key_ne {a b : Origin} (h : '/' ∉ b.host) : a.key ≠ b.hostPort ∧ a.key ≠ b.host := by
  constructor
  · intro heq
    exact slash_not_mem_hostPort h (heq ▸ a.slash_mem_key)
  · intro heq
    exact h (heq ▸ a.slash_mem_key)

end Origin

/-! ### Texts that are split -/

theorem toLower_ne_colon {c : Char} (h : isSchemeChar c = true) : c.toLower ≠ ':' := by
  have hlt : c.toNat < 128 := by
    simp only [isSchemeChar, Text.isAsciiAlphanumeric, Text.isAsciiLetter, Text.isAsciiDigit, Bool.or_eq_true,
      Bool.and_eq_true, decide_eq_true_eq] at h
    rcases h with ((h | rfl) | rfl) | rfl
    · omega
    · decide
    · decide
    · decide
  exact Text.forall_ascii (P := fun c => isSchemeChar c = true → c.toLower ≠ ':') (by decide) hlt h

theorem colon_not_mem_scheme {cs : List Char} {url : Url} (h : split cs = .ok url) : ':' ∉ url.scheme := by
  rw [(parts_of_split h).1]
  have hall : ∀ c ∈ (cleaned cs).takeWhile isSchemeChar, isSchemeChar c = true := List.all_eq_true.mp List.all_takeWhile
  unfold cutScheme
  dsimp only
  split
  next =>
    split
    next =>
      intro hcolon
      obtain ⟨c, hc, hlower⟩ := List.mem_map.mp hcolon
      exact toLower_ne_colon (hall c hc) hlower
    next => exact List.not_mem_nil
  next => exact List.not_mem_nil

theorem slash_not_mem_authority {cs : List Char} {url : Url} (h : split cs = .ok url) : '/' ∉ url.authority := by
  rw [(parts_of_split h).2.1]
  unfold cutAuthority
  split
  next after _ =>
    intro hslash
    have hkept := List.all_eq_true.mp List.all_takeWhile '/' hslash
    exact absurd hkept (by decide)
  next => exact List.not_mem_nil

/-- No host has a slash. -/
theorem slash_not_mem_host {cs : List Char} {url : Url} (h : split cs = .ok url) : '/' ∉ url.host := by
  have hauthority := slash_not_mem_authority h
  have hraw : '/' ∉ (hostAndRest (hostPort url.authority)).1 :=
    fun hmem => hauthority (mem_of_mem_afterLast (mem_of_mem_hostAndRest hmem))
  intro hmem
  rcases List.mem_append.mp hmem with hfront | hzone
  · have hfront := Text.mem_of_mem_lower (.inl (by decide)) hfront
    exact hraw ((List.takeWhile_sublist _).subset hfront)
  · exact hraw ((List.dropWhile_sublist _).subset hzone)

/-! ### Keys -/

theorem originKeys_cases {text : String} {keys : List String} (h : originKeys text = .ok keys) :
    ∃ url port?, split text.toList = .ok url ∧ url.port = .ok port? ∧
      let origin : Origin := ⟨url.scheme, url.host, effectivePort? url.scheme port?⟩
      keys = [String.ofList origin.key, String.ofList origin.hostPort, String.ofList origin.host] := by
  unfold originKeys originKeysChars at h
  cases hs : split text.toList with
  | error fault =>
    rw [hs] at h
    cases h
  | ok url =>
    rw [hs] at h
    simp only [bind, Except.bind] at h
    split at h
    next => cases h
    next =>
      cases hp : url.port with
      | error fault =>
        rw [hp] at h
        cases h
      | ok port? =>
        rw [hp] at h
        obtain rfl := Except.ok.inj h
        refine ⟨url, port?, rfl, hp, ?_⟩
        simp only [Origin.hostWithPort_eq]
        rfl

/-- The keys for the cookies of a URL are its origin, its host and port, and its host, as they are printed. -/
theorem exists_origin {text : String} {keys : List String} (h : originKeys text = .ok keys) :
    ∃ origin, originOf text = .ok origin ∧ ':' ∉ origin.scheme ∧ '/' ∉ origin.host ∧
      keys = [String.ofList origin.key, String.ofList origin.hostPort, String.ofList origin.host] := by
  obtain ⟨url, port?, hs, hp, hkeys⟩ := originKeys_cases h
  refine ⟨_, ?_, colon_not_mem_scheme hs, slash_not_mem_host hs, hkeys⟩
  simp only [originOf, hs, hp, bind, Except.bind]
  rfl

/-- The first keys of two URLs are the same if and only if their origins are, and then so are all keys. -/
theorem originKeys_eq_iff {u v : String} {keys keys' : List String} (hu : originKeys u = .ok keys)
    (hv : originKeys v = .ok keys') :
    (keys.head? = keys'.head? ↔ originOf u = originOf v) ∧ (originOf u = originOf v → keys = keys') := by
  obtain ⟨a, ha, hacolon, -, rfl⟩ := exists_origin hu
  obtain ⟨b, hb, hbcolon, -, rfl⟩ := exists_origin hv
  rw [ha, hb]
  refine ⟨⟨fun hkey => ?_, fun horigin => ?_⟩, fun horigin => ?_⟩
  · have hkeys : a.key = b.key := String.ofList_injective (Option.some.inj hkey)
    rw [Origin.key_injective hacolon hbcolon hkeys]
  · rw [Except.ok.inj horigin]
  · rw [Except.ok.inj horigin]

/-- The first key of a URL is among the keys of those URLs only that have the same origin. -/
theorem originOf_eq_of_mem {u v key : String} {keys keys' : List String} (hu : originKeys u = .ok keys)
    (hv : originKeys v = .ok keys') (hkey : keys.head? = some key) (h : key ∈ keys') : originOf u = originOf v := by
  obtain ⟨a, ha, hacolon, -, rfl⟩ := exists_origin hu
  obtain ⟨b, hb, hbcolon, hslash, rfl⟩ := exists_origin hv
  obtain rfl := Option.some.inj hkey
  have hne := Origin.key_ne (a := a) hslash
  simp only [List.mem_cons, List.not_mem_nil, or_false] at h
  rcases h with hkey | hhostPort | hhost
  · rw [ha, hb, Origin.key_injective hacolon hbcolon (String.ofList_injective hkey)]
  · exact absurd (String.ofList_injective hhostPort) hne.1
  · exact absurd (String.ofList_injective hhost) hne.2

/-! ### What origins do not depend on -/

theorem originOf_congr {u v : String} {a b : Url} (hu : split u.toList = .ok a) (hv : split v.toList = .ok b)
    (hs : a.scheme = b.scheme) (hh : hostPort a.authority = hostPort b.authority) : originOf u = originOf v := by
  have hhost : a.host = b.host := by rw [host, host, hh]
  have hport : a.port = b.port := by rw [port, port, portText, portText, hh]
  simp only [originOf, hu, hv, hs, hhost, hport, bind, Except.bind]

/-- A text is made of a scheme, in capitals or not, and of a host and port, with any user before these and any path, query and
fragment after them. -/
def HasPlace (text : String) (scheme place : List Char) : Prop :=
  ∃ written user rest, cleaned text.toList = written ++ ':' :: '/' :: '/' :: (user ++ place ++ rest) ∧
    IsScheme written ∧ written.map Char.toLower = scheme ∧ IsUser user ∧ (∀ c ∈ place, c ∉ ['/', '?', '#', '@']) ∧
    ∀ c, rest.head? = some c → endsAuthority c = true

theorem HasPlace.parts {text : String} {scheme place : List Char} (h : HasPlace text scheme place) {url : Url}
    (hurl : split text.toList = .ok url) : url.scheme = scheme ∧ hostPort url.authority = place := by
  obtain ⟨written, user, rest, hcleaned, hwritten, hcase, huser, hplace, hrest⟩ := h
  have hauthority : ∀ c ∈ user ++ place, endsAuthority c = false := by
    refine not_endsAuthority fun d hd hmem => ?_
    rcases List.mem_append.mp hmem with hmem | hmem
    · exact huser.not_mem hd hmem
    · refine hplace d hmem ?_
      simp only [List.mem_cons, List.not_mem_nil, or_false] at hd ⊢
      tauto
  obtain ⟨hscheme, hsplit⟩ := split_parts hurl hcleaned hwritten hauthority hrest
  have hat : '@' ∉ place := fun hmem => hplace '@' hmem (by decide)
  rw [hscheme, hsplit, hcase, hostPort_user huser hat]
  exact ⟨rfl, rfl⟩

/-- URLs with the same scheme, host and port in their texts have the same origin, if they are URLs at all. -/
theorem HasPlace.originOf_eq {u v : String} {scheme place : List Char} (hu : HasPlace u scheme place)
    (hv : HasPlace v scheme place) {a b : Url} (ha : split u.toList = .ok a) (hb : split v.toList = .ok b) :
    originOf u = originOf v := by
  obtain ⟨hscheme, hplace⟩ := hu.parts ha
  obtain ⟨hscheme', hplace'⟩ := hv.parts hb
  exact originOf_congr ha hb (hscheme.trans hscheme'.symm) (hplace.trans hplace'.symm)

end SiteReader.Url
