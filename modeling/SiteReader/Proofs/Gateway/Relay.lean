import SiteReader.Gateway.Destination
import SiteReader.Proofs.Url.Relay

/-!
# Destinations behind a relay

The verdict about a URL comes from its scheme and its authority (`checkDestination_congr`), but for the URL itself, which some
refusals quote.  So it is the same for all URLs that go through one relay (`throughRelay_confined`).
-/

namespace SiteReader

/-! ### Verdicts about another URL -/

/-- The same refusal, said about another URL. -/
def Refusal.about (url : String) : Refusal → Refusal
  | .unparsableUrl _ => .unparsableUrl url
  | .noHost _ => .noHost url
  | refusal => refusal

/-- The same failure, said about another URL. -/
def Failure.about (url : String) : Failure → Failure
  | .blocked refusal => .blocked (refusal.about url)
  | failure => failure

namespace Gateway

theorem ofUrl_congr {a b : String} (h : Url.headOf a.toList = Url.headOf b.toList) :
    Destination.ofUrl a = Destination.ofUrl b := by
  unfold Destination.ofUrl
  rcases Url.split_congr h with ⟨fault, ha, hb⟩ | ⟨x, y, ha, hb, hscheme, hauthority⟩
  · rw [ha, hb]
  · obtain ⟨-, hcontact⟩ := Prod.mk.inj (Url.contact_congr hscheme hauthority)
    obtain ⟨hhost, hport⟩ := Prod.mk.inj hcontact
    simp only [ha, hb, bind, Except.bind, hscheme, hhost, hport]

/-- What is wrong with the addresses of a host is said without the URL. -/
theorem checkAddresses_about (url host : String) (addresses : List String) :
    (checkAddresses host addresses).mapError (Failure.about url) = checkAddresses host addresses := by
  induction addresses with
  | nil => rfl
  | cons text rest ih =>
    rw [checkAddresses]
    split
    next => rfl
    next => rfl
    next => exact ih

theorem checkResolved_about (resolver : Resolver) (url host : String) :
    (checkResolved resolver host).mapError (Failure.about url) = checkResolved resolver host := by
  unfold checkResolved
  split
  next => rfl
  next => exact checkAddresses_about url host _

/-- URLs with the same scheme and authority get the same verdict, each with its own text where the refusal quotes it. -/
theorem checkDestination_congr (config : Config) (resolver : Resolver) {a b : String}
    (h : Url.headOf a.toList = Url.headOf b.toList) :
    checkDestination config resolver b = (checkDestination config resolver a).mapError (Failure.about b) := by
  unfold checkDestination
  rw [ofUrl_congr h]
  cases Destination.ofUrl b with
  | error fault => rfl
  | ok destination =>
    dsimp only
    split
    next => rfl
    next =>
      split
      next => rfl
      next =>
        split
        next => rfl
        next =>
          split
          next => rfl
          next =>
            split
            next => exact (checkResolved_about resolver b destination.host).symm
            next => rfl

/-- A URL that goes through a relay is put between pieces of the relay that are the same for all URLs, in an escaped form that it
is read back from.  So different URLs stay different, and whatever the URL is, the relay's own scheme, host and port are
contacted, and the verdict is the one about any other URL through the relay. -/
theorem throughRelay_confined (config : Config) (resolver : Resolver) {relay : String}
    (h : Url.IsRelay (Text.trim relay.toList)) :
    ∃ pieces, Url.Frame (Text.trim relay.toList) pieces ∧ ∀ u v : String,
      let through (url : String) := Url.throughRelay url (some relay)
      (through u).toList = Text.join (Url.escape u.toList) pieces ∧
      (∃ bytes, Url.Spells (Url.escape u.toList) bytes ∧ String.fromUTF8? bytes.toByteArray = some u) ∧
      (through u = through v → u = v) ∧
      (Url.split (through u).toList).map Url.contact = (Url.split (Text.trim relay.toList)).map Url.contact ∧
      checkDestination config resolver (through v) =
        (checkDestination config resolver (through u)).mapError (Failure.about (through v)) := by
  obtain ⟨pieces, hframe, hjoin⟩ := Url.exists_frame h.ne_nil
  have hthrough (url : String) : (Url.throughRelay url (some relay)).toList = Text.join (Url.escape url.toList) pieces := by
    rw [← hjoin]
    exact String.toList_ofList
  have hhead (url : String) : Url.headOf (Url.throughRelay url (some relay)).toList = Url.headOf (Text.trim relay.toList) := by
    rw [hthrough, hframe.headOf_join h]
  refine ⟨pieces, hframe, fun u v => ⟨hthrough u, Url.decodes_escape u, fun heq => ?_, Url.map_contact_congr (hhead u),
    checkDestination_congr config resolver ((hhead u).trans (hhead v).symm)⟩⟩
  have hescaped : Text.join (Url.escape u.toList) pieces = Text.join (Url.escape v.toList) pieces := by
    rw [← hthrough, ← hthrough]
    exact congrArg String.toList heq
  exact Url.escape_injective (hframe.join_injective hescaped)

theorem throughRelay_confined_query :
    let relay := " http://relay.test/get?q={url}&n=1\n"
    let through (url : String) := Url.throughRelay url (some relay)
    let check := checkDestination .standard (fun _ => .ok [])
    Url.IsRelay (Text.trim relay.toList) ∧
      (Url.split (through "//a.test:1/#\\@b.test").toList).map Url.contact =
        .ok ("http".toList, "relay.test".toList, .ok none) ∧
      check (through "") = (check (through "//a.test:1/#\\@b.test")).mapError (Failure.about (through "")) := by
  intro relay through check
  have hrelay : Url.IsRelay (Text.trim relay.toList) := .of_forall_take (by decide +kernel) (by decide +kernel)
  obtain ⟨pieces, -, hall⟩ := throughRelay_confined .standard (fun _ => .ok []) hrelay
  obtain ⟨-, -, -, hcontact, hverdict⟩ := hall "//a.test:1/#\\@b.test" ""
  exact ⟨hrelay, hcontact.trans (by decide +kernel), hverdict⟩

end Gateway

end SiteReader
