import SiteReader.Proofs.Credential.History
import SiteReader.Proofs.Url.Origin

/-!
# Cookies of an origin

A cookie is looked up by the origin of a URL and nothing else of it: URLs of one origin are given the same cookie, and a cookie
that is kept for an origin alone is given to no URL of another one (`cookie_of_origin`).
-/

namespace SiteReader.CredentialStore

variable {store : CredentialStore} {trouble : Trouble} {fs : FileSystem} {sourceId url cookie : String} {keys : List String}

/-- URLs with the same keys are given the same cookie. -/
theorem cookieFor_congr {other : String} (h : Url.originKeys url = .ok keys) (ho : Url.originKeys other = .ok keys)
    (store : CredentialStore) (trouble : Trouble) (sourceId : String) (fs : FileSystem) :
    outcome (store.cookieFor sourceId url trouble) fs = outcome (store.cookieFor sourceId other trouble) fs := by
  rw [outcome_cookieFor, outcome_cookieFor, h, ho]

/-- A cookie that a URL is given is kept under one of its keys. -/
theorem exists_key_of_cookieFor (hkeys : Url.originKeys url = .ok keys) (hne : cookie ≠ "")
    (h : (outcome (store.cookieFor sourceId url trouble) fs).1 = .ok cookie) :
    ∃ records record, (outcome (store.read trouble) fs).1 = .ok records ∧
      Credential.find? sourceId records = some record ∧ ∃ key ∈ keys, record.cookies.lookup key = some cookie := by
  rw [outcome_cookieFor, hkeys] at h
  cases hread : (outcome (store.read trouble) fs).1 with
  | error failure =>
    rw [hread] at h
    cases h
  | ok records =>
    rw [hread] at h
    have hcookie : ((Credential.find? sourceId records).bind fun record => record.cookie? keys).getD "" = cookie :=
      Except.ok.inj h
    cases hfind : Credential.find? sourceId records with
    | none =>
      rw [hfind] at hcookie
      exact absurd hcookie.symm hne
    | some record =>
      rw [hfind, Option.bind_some] at hcookie
      cases hgiven : record.cookie? keys with
      | none =>
        rw [hgiven] at hcookie
        exact absurd hcookie.symm hne
      | some given =>
        rw [hgiven] at hcookie
        obtain rfl : given = cookie := hcookie
        rw [cookie?_eq_findSome?] at hgiven
        obtain ⟨key, hmem, hkept⟩ := List.exists_of_findSome?_eq_some hgiven
        exact ⟨records, record, rfl, hfind, key, hmem, (Option.filter_eq_some_iff.mp hkept).1⟩

/-- Two URLs have the same first key if and only if they have the same origin, and then they have the same keys and are given the
same cookie; user, path, query and fragment make no difference.  A cookie that a source has under the first key of a URL only
is not given to any URL of another origin. -/
theorem cookie_of_origin {u v : String} {keys keys' : List String} (hu : Url.originKeys u = .ok keys)
    (hv : Url.originKeys v = .ok keys') :
    (keys.head? = keys'.head? ↔ Url.originOf u = Url.originOf v) ∧
    (∀ scheme place, Url.HasPlace u scheme place → Url.HasPlace v scheme place → Url.originOf u = Url.originOf v) ∧
    (Url.originOf u = Url.originOf v → keys = keys' ∧
      ∀ (store : CredentialStore) (trouble : Trouble) (sourceId : String) (fs : FileSystem),
        outcome (store.cookieFor sourceId u trouble) fs = outcome (store.cookieFor sourceId v trouble) fs) ∧
    (Url.originOf u ≠ Url.originOf v →
      ∀ (store : CredentialStore) (trouble : Trouble) (sourceId : String) (fs : FileSystem) (cookie : String), cookie ≠ "" →
        (∀ records record key, (outcome (store.read trouble) fs).1 = .ok records →
          Credential.find? sourceId records = some record → record.cookies.lookup key = some cookie →
          keys.head? = some key) →
        (outcome (store.cookieFor sourceId v trouble) fs).1 ≠ .ok cookie) := by
  have hsame := Url.originKeys_eq_iff hu hv
  refine ⟨hsame.1, fun scheme place hplace hplace' => ?_, fun horigin => ?_,
    fun horigin store trouble sourceId fs cookie hne honly hgiven => ?_⟩
  · obtain ⟨a, -, ha, -⟩ := Url.originKeys_cases hu
    obtain ⟨b, -, hb, -⟩ := Url.originKeys_cases hv
    exact hplace.originOf_eq hplace' ha hb
  · obtain rfl := hsame.2 horigin
    exact ⟨rfl, cookieFor_congr hu hv⟩
  · obtain ⟨records, record, hread, hfind, key, hmem, hkept⟩ := exists_key_of_cookieFor hv hne hgiven
    have hfirst := honly records record key hread hfind hkept
    exact horigin (Url.originOf_eq_of_mem hu hv hfirst hmem)

/-- Capitals in the scheme, a user, path, query and fragment make no difference, nor does the usual port, but another one
does. -/
theorem cookie_of_origin_loopback :
    let store : CredentialStore := ⟨⟨"/", ["auth.json"]⟩⟩
    let records : List Credential := [⟨"s", [("http://[::1]", "k=1")], []⟩]
    let fs : FileSystem := ⟨⟨"/", []⟩, [(["auth.json"], .file (Credential.fileText records).toUTF8)]⟩
    Url.originOf "HTTP://me@[::1]:0080/a?b#c" = Url.originOf "http://[::1]:0080" ∧
    Url.originOf "http://[::1]:0080" = Url.originOf "http://[::1]" ∧
    outcome (store.cookieFor "s" "HTTP://me@[::1]:0080/a?b#c") fs = outcome (store.cookieFor "s" "http://[::1]:0080") fs ∧
    Url.originOf "http://[::1]" ≠ Url.originOf "http://[::1]:8080/" ∧
    (outcome (store.cookieFor "s" "http://[::1]:8080/") fs).1 ≠ .ok "k=1" := by
  intro store records fs
  have hlong : Url.originKeys "HTTP://me@[::1]:0080/a?b#c" = .ok ["http://[::1]", "[::1]", "::1"] := by decide +kernel
  have hzeros : Url.originKeys "http://[::1]:0080" = .ok ["http://[::1]", "[::1]", "::1"] := by decide +kernel
  have hshort : Url.originKeys "http://[::1]" = .ok ["http://[::1]", "[::1]", "::1"] := by decide +kernel
  have hport : Url.originKeys "http://[::1]:8080/" = .ok ["http://[::1]:8080", "[::1]:8080", "::1"] := by decide +kernel
  have hscheme (scheme : List Char) (hmem : scheme = "HTTP".toList ∨ scheme = "http".toList) : Url.IsScheme scheme := by
    rcases hmem with rfl | rfl
    · exact ⟨⟨'H', rfl, by decide⟩, Text.forall_mem (by decide)⟩
    · exact ⟨⟨'h', rfl, by decide⟩, Text.forall_mem (by decide)⟩
  have hplace : Url.HasPlace "HTTP://me@[::1]:0080/a?b#c" "http".toList "[::1]:0080".toList :=
    ⟨"HTTP".toList, "me@".toList, "/a?b#c".toList, by decide, hscheme _ (.inl rfl), by decide,
      .inr ⟨"me".toList, rfl, Text.forall_mem (by decide)⟩, Text.forall_mem (by decide), fun c hc => by cases hc; decide⟩
  have hplace' : Url.HasPlace "http://[::1]:0080" "http".toList "[::1]:0080".toList :=
    ⟨"http".toList, [], [], by decide, hscheme _ (.inr rfl), by decide, .inl rfl, Text.forall_mem (by decide),
      nofun⟩
  have hsame := (cookie_of_origin hlong hzeros).2.1 _ _ hplace hplace'
  have hother : Url.originOf "http://[::1]" ≠ Url.originOf "http://[::1]:8080/" := by
    intro horigin
    exact absurd ((cookie_of_origin hshort hport).1.mpr horigin) (by decide)
  have hread : (outcome store.read fs).1 = .ok records := by
    have hholds : store.Holds fs records :=
      .written rfl (List.forall_mem_singleton.mpr ⟨⟨by decide, .nil⟩, by decide⟩)
    obtain ⟨_, hread, -⟩ := hholds.read
    exact congrArg Prod.fst hread
  refine ⟨hsame, (cookie_of_origin hzeros hshort).1.mp rfl, ((cookie_of_origin hlong hzeros).2.2.1 hsame).2 store {} "s" fs,
    hother, (cookie_of_origin hshort hport).2.2.2 hother store {} "s" fs "k=1" (by decide)
      fun read record key hr hfind hkept => ?_⟩
  obtain rfl : records = read := Except.ok.inj (hread.symm.trans hr)
  obtain rfl : ⟨"s", [("http://[::1]", "k=1")], []⟩ = record := Option.some.inj hfind
  by_cases hkey : key = "http://[::1]"
  · rw [hkey]
    rfl
  · have hbeq : (key == "http://[::1]") = false := beq_eq_false_iff_ne.mpr hkey
    have hnone : List.lookup key [("http://[::1]", "k=1")] = none := by simp [List.lookup_cons, hbeq]
    cases hnone.symm.trans hkept

end SiteReader.CredentialStore
