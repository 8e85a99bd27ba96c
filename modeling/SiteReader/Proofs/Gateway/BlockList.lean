import SiteReader.Proofs.Gateway.Destination
import SiteReader.Proofs.Url.Written

/-!
# Entries of the list of blocked hosts

The host of a URL is looked for on the list in its canonical form.  So an entry that is its own canonical form blocks every URL
with the same host, however the host is spelled there, and an entry in any other spelling has no effect of its own: the URLs for
it are blocked if and only if its canonical form is refused (`entry_blocks`).
-/

namespace SiteReader.Gateway

variable {config : Config} {host : String}

/-- A host is refused, if it has a canonical form at all, because the form is empty, on the list or in a private range. -/
def Config.Refuses (config : Config) (host : String) : Prop :=
  ∀ name, Host.canonical host = .ok name →
    name = "" ∨ name ∈ config.blockedHosts ∨ ∃ isPrivate ∈ config.privateHosts, isPrivate name = true

/-- An entry that is its own canonical form is refused. -/
theorem Config.refuses_of_mem {entry : String} (hentry : entry ∈ config.blockedHosts)
    (hcanonical : Host.canonical entry = .ok entry) : config.Refuses entry := by
  intro name hname
  obtain rfl := Except.ok.inj (hcanonical.symm.trans hname)
  exact .inr (.inl hentry)

theorem Accepted.not_refuses {url : String} {name : String} {scheme : String} (h : Accepted config url ⟨scheme, name⟩)
    (hname : Host.canonical host = .ok name) : ¬ config.Refuses host := by
  intro hrefuses
  rcases hrefuses name hname with rfl | hblocked | ⟨isPrivate, hm, hprivate⟩
  · exact h.host_ne rfl
  · exact h.not_blocked hblocked
  · cases hprivate.symm.trans (h.not_private isPrivate hm)

/-- The host of a destination is the canonical form of the one that is written in its URL. -/
theorem canonical_of_ofUrl (hhost : Url.IsHost host.toList) {url : String} (hurl : Url.HasHost host.toList url.toList)
    {destination : Destination} (h : Destination.ofUrl url = .ok destination) :
    Host.canonical host = .ok destination.host := by
  obtain ⟨parts, name, port, hs, hn, -, rfl⟩ := ofUrl_eq_ok_iff.mp h
  exact Host.canonical_eq (((hurl.canonical hhost hs).2 name).mp hn)

/-- Every URL with a host that is refused is blocked. -/
theorem Config.Refuses.blocked (h : config.Refuses host) (hhost : Url.IsHost host.toList) {url : String}
    (hurl : Url.HasHost host.toList url.toList) (resolver : Resolver) :
    ∃ refusal, checkDestination config resolver url = .error (.blocked refusal) := by
  rcases accepted_or_blocked config resolver url with ⟨destination, haccepted⟩ | hblocked
  · exact absurd h (haccepted.not_refuses (canonical_of_ofUrl hhost hurl haccepted.ofUrl_eq))
  · exact hblocked

/-- The plain URL with a host that is not refused is let pass. -/
theorem Config.accepted_of_not_refuses (h : ¬ config.Refuses host) (hhost : Url.IsHost host.toList) :
    ∃ name, Host.canonical host = .ok name ∧ Accepted config (String.ofList (Url.plainUrl host.toList)) ⟨"http", name⟩ := by
  simp only [Config.Refuses, not_forall, not_or, not_exists, not_and, Bool.not_eq_true, exists_prop] at h
  obtain ⟨name, hname, hne, hblocked, hprivate⟩ := h
  obtain ⟨parts, hs, hscheme, hport⟩ := Url.split_plainUrl hhost
  have hform := ((Url.hasHost_plainUrl host.toList).canonical hhost hs).2 name.toList
  have hofUrl : Destination.ofUrl (String.ofList (Url.plainUrl host.toList)) = .ok ⟨"http", name⟩ := by
    rw [← String.toList_ofList (l := Url.plainUrl host.toList)] at hs
    refine ofUrl_eq_ok_iff.mpr ⟨parts, name.toList, none, hs, hform.mpr (Host.canonicalChars_of_canonical hname), hport, ?_⟩
    rw [hscheme, String.ofList_toList, String.ofList_toList]
  exact ⟨name, hname, hofUrl, .inl rfl, hne, hblocked, hprivate⟩

/-- An entry of the list of blocked hosts blocks all URLs for it if it is its own canonical form, or if its canonical form is
refused on other grounds.  Any other entry blocks nothing: not even the plain URL for it is blocked by the lists, and only
looking up the host that the entry stands for may still refuse it. -/
theorem entry_blocks (config : Config) (resolver : Resolver) {entry : String} (hentry : entry ∈ config.blockedHosts)
    (hhost : Url.IsHost entry.toList) :
    (Host.canonical entry = .ok entry → config.Refuses entry) ∧
    (config.Refuses entry → ∀ url : String, Url.HasHost entry.toList url.toList →
      ∃ refusal, checkDestination config resolver url = .error (.blocked refusal)) ∧
    (¬ config.Refuses entry → ∃ name, Host.canonical entry = .ok name ∧ name ≠ entry ∧
      checkDestination config resolver (String.ofList (Url.plainUrl entry.toList)) =
        if config.resolveHosts then checkResolved resolver name else .ok ()) := by
  refine ⟨Config.refuses_of_mem hentry, fun h url hurl => h.blocked hhost hurl resolver, fun h => ?_⟩
  obtain ⟨name, hname, haccepted⟩ := Config.accepted_of_not_refuses h hhost
  refine ⟨name, hname, ?_, haccepted.checkDestination_eq resolver⟩
  rintro rfl
  exact h (Config.refuses_of_mem hentry hname)

private theorem isHost_example : Url.IsHost "example.com".toList ∧ Url.IsHost "Example.COM".toList := by
  constructor
  · exact .name ⟨by decide, Text.forall_mem (by decide), Text.forall_mem (by decide)⟩ (by decide)
  · exact .name ⟨by decide, Text.forall_mem (by decide), Text.forall_mem (by decide)⟩ (by decide)

theorem entry_blocks_example :
    let config (entry : String) : Config := { Config.standard with blockedHosts := [entry] }
    Url.IsHost "example.com".toList ∧ Url.IsHost "Example.COM".toList ∧
    (∃ refusal, checkDestination (config "example.com") (fun _ => .ok []) "HTTPS://me@example.com:8080/a" =
      .error (.blocked refusal)) ∧
    ∃ name, Host.canonical "Example.COM" = .ok name ∧ name ≠ "Example.COM" ∧
      checkDestination (config "Example.COM") (fun _ => .ok []) (String.ofList (Url.plainUrl "Example.COM".toList)) =
        .ok () := by
  intro config
  obtain ⟨hlower, hcapital⟩ := isHost_example
  have hurl : Url.HasHost "example.com".toList "HTTPS://me@example.com:8080/a".toList :=
    @Url.HasHost.url "example.com".toList "HTTPS".toList "me@".toList ":8080".toList "/a".toList (by decide)
      (.inr ⟨"me".toList, rfl, Text.forall_mem (by decide)⟩) (.inr ⟨"8080".toList, rfl, Text.forall_mem (by decide)⟩)
      (fun c hc => Option.some.inj hc ▸ by decide)
  have hrefuses : ¬ (config "Example.COM").Refuses "Example.COM" := by
    intro h
    rcases h "example.com" (by decide +kernel) with hempty | hblocked | ⟨isPrivate, hm, hprivate⟩
    · exact absurd hempty (by decide)
    · exact absurd hblocked (by decide)
    · obtain rfl := List.mem_singleton.mp hm
      exact absurd hprivate (by decide +kernel)
  obtain ⟨hcanonical, hblocks, -⟩ :=
    entry_blocks (config "example.com") (fun _ => .ok []) (List.mem_singleton.mpr rfl) hlower
  obtain ⟨-, -, hpasses⟩ := entry_blocks (config "Example.COM") (fun _ => .ok []) (List.mem_singleton.mpr rfl) hcapital
  exact ⟨hlower, hcapital, hblocks (hcanonical (by decide +kernel)) _ hurl, hpasses hrefuses⟩

/-- An entry with capital letters does not block the URL whose host is written in the same way. -/
theorem entry_with_capitals_passes :
    ¬ ∀ (config : Config) (resolver : Resolver) (entry : String), entry ∈ config.blockedHosts → Url.IsHost entry.toList →
      ∃ refusal, checkDestination config resolver (String.ofList (Url.plainUrl entry.toList)) =
        .error (.blocked refusal) := by
  intro h
  let config : Config := { Config.standard with blockedHosts := ["Example.COM"] }
  obtain ⟨refusal, hblocked⟩ := h config (fun _ => .ok []) "Example.COM" (List.mem_singleton.mpr rfl) isHost_example.2
  have hpasses : checkDestination config (fun _ => .ok []) (String.ofList (Url.plainUrl "Example.COM".toList)) = .ok () := by
    decide +kernel
  cases hpasses.symm.trans hblocked

end SiteReader.Gateway
