import Mathlib.Tactic.IntervalCases
import SiteReader.Gateway.Destination

/-!
# What the check of a destination says

A URL whose host is on no list is accepted (`Accepted`), but for what looking the host up may yield, and any other one is
blocked (`accepted_or_blocked`).  The dotted quads of the internal ranges are told by how they start
(`isPrivateRange_dotted`).
-/

namespace SiteReader

/-- The address is in one of the ranges 10/8, 172.16/12 and 192.168/16. -/
def Ipv4.IsInternal (a : Ipv4) : Prop :=
  a.inBlock (10, 0, 0, 0) 8 = true ∨ a.inBlock (172, 16, 0, 0) 12 = true ∨ a.inBlock (192, 168, 0, 0) 16 = true

namespace Gateway

/-! ### Reading destinations -/

theorem ofUrl_eq_ok_iff {url : String} {destination : Destination} :
    Destination.ofUrl url = .ok destination ↔ ∃ parts name port, Url.split url.toList = .ok parts ∧
      Host.canonicalChars parts.host = .ok name ∧ parts.port = .ok port ∧
      destination = ⟨String.ofList parts.scheme, String.ofList name⟩ := by
  unfold Destination.ofUrl
  constructor
  · intro h
    cases hs : Url.split url.toList with
    | error fault => rw [hs] at h; cases h
    | ok parts =>
      cases hn : Host.canonicalChars parts.host with
      | error fault => simp [hs, hn, bind, Except.bind] at h
      | ok name =>
        cases hp : parts.port with
        | error fault => simp [hs, hn, hp, bind, Except.bind] at h
        | ok port =>
          simp only [hs, hn, hp, bind, Except.bind, pure, Except.pure] at h
          exact ⟨parts, name, port, rfl, hn, hp, (Except.ok.inj h).symm⟩
  · rintro ⟨parts, name, port, hs, hn, hp, rfl⟩
    simp only [hs, hn, hp, bind, Except.bind, pure, Except.pure]

/-! ### Verdicts -/

/-- The destination of a URL that the lists of a policy let pass. -/
structure Accepted (config : Config) (url : String) (destination : Destination) : Prop where
  ofUrl_eq : Destination.ofUrl url = .ok destination
  scheme : destination.scheme = "http" ∨ destination.scheme = "https"
  host_ne : destination.host ≠ ""
  not_blocked : destination.host ∉ config.blockedHosts
  not_private : ∀ isPrivate ∈ config.privateHosts, isPrivate destination.host = false

theorem accepted_or_blocked (config : Config) (resolver : Resolver) (url : String) :
    (∃ destination, Accepted config url destination) ∨
      ∃ refusal, checkDestination config resolver url = .error (.blocked refusal) := by
  unfold checkDestination
  cases hd : Destination.ofUrl url with
  | error fault => exact .inr ⟨_, rfl⟩
  | ok destination =>
    simp only
    split
    next => exact .inr ⟨_, rfl⟩
    next hscheme =>
      split
      next => exact .inr ⟨_, rfl⟩
      next hne =>
        split
        next => exact .inr ⟨_, rfl⟩
        next hblocked =>
          split
          next => exact .inr ⟨_, rfl⟩
          next hprivate =>
            refine .inl ⟨destination, hd, ?_, by simpa using hne, by simpa using hblocked, by simpa using hprivate⟩
            by_cases hs : destination.scheme = "http"
            · exact .inl hs
            · exact .inr (by simpa [hs] using hscheme)

/-- Hosts that are on no list are looked up, if the policy says so. -/
theorem Accepted.checkDestination_eq {config : Config} {url : String} {destination : Destination}
    (h : Accepted config url destination) (resolver : Resolver) :
    checkDestination config resolver url =
      if config.resolveHosts then checkResolved resolver destination.host else .ok () := by
  have hscheme : (destination.scheme ≠ "http" && destination.scheme ≠ "https") = false := by
    rcases h.scheme with hs | hs <;> simp [hs]
  have hne : destination.host.isEmpty = false := by simpa using h.host_ne
  have hblocked : config.blockedHosts.contains destination.host = false := by simpa using h.not_blocked
  have hprivate : config.privateHosts.any (· destination.host) = false := by simpa using h.not_private
  simp only [checkDestination, h.ofUrl_eq, hscheme, hne, hblocked, hprivate, Bool.false_eq_true, ↓reduceIte]

theorem accepted_of_checkDestination {config : Config} {resolver : Resolver} {url : String}
    (h : checkDestination config resolver url = .ok ()) : ∃ destination, Accepted config url destination := by
  rcases accepted_or_blocked config resolver url with hd | ⟨refusal, hr⟩
  · exact hd
  · rw [h] at hr
    cases hr

/-! ### Internal ranges -/

theorem isPrivateRange_mem : Config.isPrivateRange ∈ Config.standard.privateHosts :=
  List.mem_cons_self

theorem startsWithPrivateByte_decimal {n : Nat} (hn : 16 ≤ n) (hlt : n < 32) (rest : List Char) :
    Config.startsWithPrivateByte (Ipv4.decimal n ++ '.' :: rest) = true := by
  interval_cases n <;> rfl

/-- The dotted quad of an internal address is told by how it starts. -/
theorem isPrivateRange_dotted {a : Ipv4} (h : a.IsInternal) : Config.isPrivateRange (String.ofList a.dotted) = true := by
  have hdotted : a.dotted = Ipv4.decimal (a.value / 16777216) ++ '.' :: (Ipv4.decimal (a.value / 65536 % 256) ++
      '.' :: (Ipv4.decimal (a.value / 256 % 256) ++ '.' :: Ipv4.decimal (a.value % 256))) := by
    simp [Ipv4.dotted, Ipv4.octets, Text.join]
  simp only [Config.isPrivateRange, String.toList_ofList, hdotted]
  simp only [Ipv4.IsInternal, Ipv4.inBlock, beq_iff_eq] at h
  rcases h with h | h | h
  · have h1 : a.value / 16777216 = 10 := by
      have hpow : Nat.pow 2 (32 - 8) = 16777216 := by decide
      rw [hpow] at h
      omega
    rw [h1]
    rfl
  · have hpow : Nat.pow 2 (32 - 12) = 1048576 := by decide
    rw [hpow] at h
    have h1 : a.value / 16777216 = 172 := by omega
    have h2 := @startsWithPrivateByte_decimal (a.value / 65536 % 256) (by omega) (by omega)
    rw [h1]
    exact h2 _
  · have hpow : Nat.pow 2 (32 - 16) = 65536 := by decide
    rw [hpow] at h
    have h1 : a.value / 16777216 = 192 := by omega
    have h2 : a.value / 65536 % 256 = 168 := by omega
    rw [h1, h2]
    rfl

end Gateway

end SiteReader
