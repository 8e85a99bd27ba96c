import SiteReader.Proofs.Credential.History
import SiteReader.Proofs.Credential.Lasting
import SiteReader.Proofs.Gateway.Secrets

/-!
# What a request says

The fields of a request are made of three parts: those that are sent by default, the texts that a caller gives under names that
callers may set, and a cookie of the store.  When the store can be read, there are fields for every request, and they are
composed of these parts alone (`requestHeaders_composed`): the caller comes before the defaults, the last text of a name
before the others in whatever letter case, and the store comes last, for it is asked only where no other part has a cookie
(`requestHeaders_of_readable`).
-/

namespace SiteReader

open Headers (NamedOnce)

namespace Gateway

variable {gateway : Gateway} {asked : List (String × Tree)} {url : String} {sourceId? : Option String} {files : FileSystem}

/-! ### What a caller gives -/

/-- A field that a caller gives as a text, under a name that callers may set. -/
def Granted (gateway : Gateway) (asked : List (String × Tree)) (field : String × String) : Prop :=
  (field.1, .text field.2) ∈ asked ∧ lowered field.1 ∈ gateway.config.requestHeaders

/-- The last text that a caller gives under a name, in whatever letter case. -/
def LastText (asked : List (String × Tree)) (field : String × String) : Prop :=
  ∃ before after, asked = before ++ (field.1, .text field.2) :: after ∧
    ∀ name text, (name, .text text) ∈ after → lowered name ≠ lowered field.1

theorem mem_textHeaders {field : String × String} : field ∈ textHeaders asked ↔ (field.1, .text field.2) ∈ asked := by
  rw [textHeaders, List.mem_filterMap]
  constructor
  · rintro ⟨⟨name, value⟩, hm, heq⟩
    cases value with
    | text text =>
      obtain rfl := Option.some.inj heq
      exact hm
    | _ => cases heq
  · exact fun hm => ⟨_, hm, rfl⟩

theorem granted_iff {field : String × String} :
    gateway.Granted asked field ↔ field ∈ (textHeaders asked).only gateway.config.requestHeaders := by
  rw [Granted, Headers.only, List.mem_filter, mem_textHeaders, List.contains_iff_mem]

theorem LastText.last?_eq {field : String × String} (h : LastText asked field) :
    (textHeaders asked).last? field.1 = some field := by
  obtain ⟨before, after, rfl, hlater⟩ := h
  have hsplit : textHeaders (before ++ (field.1, .text field.2) :: after) =
      textHeaders before ++ ([field] ++ textHeaders after) := by
    rw [textHeaders, List.filterMap_append, List.filterMap_cons]
    rfl
  have hafter : (textHeaders after).last? field.1 = none := by
    rw [Headers.last?_eq_none_iff, Headers.names_eq_false_iff]
    exact fun later hm => hlater later.1 later.2 (mem_textHeaders.mp hm)
  rw [hsplit, Headers.last?_append, Headers.last?_append, hafter, Option.none_or, Headers.last?_singleton,
    if_pos (Headers.sameName_iff.mpr rfl), Option.some_or]

/-! ### The parts of a request -/

/-- Neither what the caller may give nor what is sent by default has a cookie. -/
def LacksCookie (gateway : Gateway) (asked : List (String × Tree)) : Prop :=
  ∀ field, field ∈ gateway.config.defaultHeaders ∨ gateway.Granted asked field → lowered field.1 ≠ "cookie"

theorem lacksCookie_iff :
    gateway.LacksCookie asked ↔ (gateway.plainHeaders (textHeaders asked)).names "cookie" = false := by
  have hname : lowered "cookie" = "cookie" := by decide
  rw [← Headers.isSome_first?, first?_plainHeaders, Option.isSome_or, Headers.isSome_last?, Headers.isSome_last?,
    Bool.or_eq_false_iff, Headers.names_eq_false_iff, Headers.names_eq_false_iff, hname]
  constructor
  · exact fun h => ⟨fun field hm => h field (.inr (granted_iff.mpr hm)), fun field hm => h field (.inl hm)⟩
  · rintro ⟨hgranted, hdefault⟩ field (hm | hm)
    · exact hdefault field hm
    · exact hgranted field (granted_iff.mp hm)

theorem default_or_granted_of_mem {field : String × String} (h : field ∈ gateway.plainHeaders (textHeaders asked)) :
    field ∈ gateway.config.defaultHeaders ∨ gateway.Granted asked field :=
  (Headers.mem_of_mem_merge h).imp Headers.mem_of_mem_distinct granted_iff.mpr

theorem mem_plainHeaders_of_lastText {field : String × String} (h : LastText asked field)
    (ha : lowered field.1 ∈ gateway.config.requestHeaders) : field ∈ gateway.plainHeaders (textHeaders asked) := by
  have hfirst := gateway.first?_plainHeaders (textHeaders asked) field.1
  rw [Headers.last?_only ha, h.last?_eq, Option.some_or] at hfirst
  exact Headers.mem_of_first? hfirst

theorem mem_plainHeaders_of_default (hd : gateway.config.defaultHeaders.NamedOnce) {field : String × String}
    (h : field ∈ gateway.config.defaultHeaders)
    (ho : ∀ other, gateway.Granted asked other → lowered other.1 ≠ lowered field.1) :
    field ∈ gateway.plainHeaders (textHeaders asked) := by
  have hgranted : ((textHeaders asked).only gateway.config.requestHeaders).last? field.1 = none := by
    rw [Headers.last?_eq_none_iff, Headers.names_eq_false_iff]
    exact fun other hm => ho other (granted_iff.mpr hm)
  have hfirst := gateway.first?_plainHeaders (textHeaders asked) field.1
  rw [hgranted, Option.none_or, hd.last?_of_mem h] at hfirst
  exact Headers.mem_of_first? hfirst

/-! ### The cookie of the store -/

theorem hasCookie_iff {store : CredentialStore} {sourceId cookie : String} (hstore : gateway.store? = some store)
    (hid : sourceId ≠ "") (hc : (outcome (store.cookieFor sourceId url) files).1 = .ok cookie) {value : String} :
    gateway.HasCookie (some sourceId) files url value ↔ value ≠ "" ∧ value = cookie := by
  constructor
  · rintro ⟨sourceId', store', hid', -, hstore', hne, hc'⟩
    obtain rfl := Option.some.inj hid'
    obtain rfl := Option.some.inj (hstore.symm.trans hstore')
    exact ⟨hne, Except.ok.inj (hc'.symm.trans hc)⟩
  · rintro ⟨hne, rfl⟩
    exact ⟨sourceId, store, rfl, hid, hstore, hne, hc⟩

/-- With a store that can be read there are fields for every request: the plain ones, with the cookie of the store if it has
one and there is none among them. -/
theorem requestHeaders_of_readable (hs : ∀ store, gateway.store? = some store → store.Readable files) (given : Headers)
    (url : String) (sourceId? : Option String) :
    ∃ headers files', outcome (gateway.requestHeaders given url sourceId?) files = (.ok headers, files') ∧
      (headers = gateway.plainHeaders given ∧
          ((gateway.plainHeaders given).names "cookie" = false → ∀ value, ¬ gateway.HasCookie sourceId? files url value) ∨
        ∃ cookie, headers = (gateway.plainHeaders given).set "Cookie" cookie ∧
          (gateway.plainHeaders given).names "cookie" = false ∧
          ∀ value, gateway.HasCookie sourceId? files url value ↔ value = cookie) := by
  rw [outcome_requestHeaders]
  split
  next sourceId store hstore =>
    split
    next hleft =>
      -- nothing is looked up: a cookie is there, or no source is named
      refine ⟨_, _, rfl, .inl ⟨rfl, ?_⟩⟩
      rintro hnames value ⟨_, _, hid, hne, -⟩
      obtain rfl := Option.some.inj hid
      rw [hnames, Bool.or_false, String.isEmpty_iff] at hleft
      exact hne hleft
    next hasked =>
      obtain ⟨hid, hnames⟩ := Bool.or_eq_false_iff.mp (Bool.eq_false_iff.mpr hasked)
      obtain ⟨cookie, hc⟩ := (hs store hstore).exists_cookieFor sourceId url
      have hhas {value : String} : gateway.HasCookie (some sourceId) files url value ↔ value ≠ "" ∧ value = cookie :=
        hasCookie_iff hstore (by simpa using hid) hc
      refine ⟨withCookie (gateway.plainHeaders given) cookie, _, by rw [hc]; rfl, ?_⟩
      unfold withCookie
      split
      next hempty =>
        refine .inl ⟨rfl, fun _ value hv => ?_⟩
        obtain ⟨hne, rfl⟩ := hhas.mp hv
        exact hne (String.isEmpty_iff.mp hempty)
      next hne =>
        refine .inr ⟨cookie, rfl, hnames, fun value => hhas.trans (and_iff_right_of_imp ?_)⟩
        rintro rfl hempty
        exact hne (String.isEmpty_iff.mpr hempty)
  next hnone =>
    refine ⟨_, _, rfl, .inl ⟨rfl, ?_⟩⟩
    rintro - value ⟨sourceId, store, hid, -, hstore, -⟩
    exact hnone sourceId store hid hstore

/-! ### All fields of a request -/

/-- The fields of a request are composed of the defaults, of what the caller may give, and of a cookie of the store where
neither of these has one.  No name is there twice, the last text of a name counts, and every other default stays. -/
structure Composed (gateway : Gateway) (asked : List (String × Tree)) (url : String) (sourceId? : Option String)
    (files : FileSystem) (headers : Headers) : Prop where
  namedOnce : headers.NamedOnce
  origin : ∀ field ∈ headers, field ∈ gateway.config.defaultHeaders ∨ gateway.Granted asked field ∨
    field.1 = "Cookie" ∧ gateway.HasCookie sourceId? files url field.2 ∧ gateway.LacksCookie asked
  given : ∀ field, LastText asked field → lowered field.1 ∈ gateway.config.requestHeaders → field ∈ headers
  default : ∀ field ∈ gateway.config.defaultHeaders,
    (∀ other, gateway.Granted asked other → lowered other.1 ≠ lowered field.1) → field ∈ headers
  stored : gateway.LacksCookie asked → ∀ value, gateway.HasCookie sourceId? files url value → ("Cookie", value) ∈ headers

theorem composed_plainHeaders (hd : gateway.config.defaultHeaders.NamedOnce)
    (hc : gateway.LacksCookie asked → ∀ value, ¬ gateway.HasCookie sourceId? files url value) :
    Composed gateway asked url sourceId? files (gateway.plainHeaders (textHeaders asked)) where
  namedOnce := gateway.namedOnce_plainHeaders _
  origin _ hm := (default_or_granted_of_mem hm).imp_right .inl
  given _ h ha := mem_plainHeaders_of_lastText h ha
  default _ hm ho := mem_plainHeaders_of_default hd hm ho
  stored hlacks value hv := absurd hv (hc hlacks value)

/-- A cookie that is added where there is none displaces nothing. -/
theorem Composed.set_cookie {cookie : String} (hd : gateway.config.defaultHeaders.NamedOnce)
    (hlacks : gateway.LacksCookie asked) (hc : ∀ value, gateway.HasCookie sourceId? files url value ↔ value = cookie) :
    Composed gateway asked url sourceId? files ((gateway.plainHeaders (textHeaders asked)).set "Cookie" cookie) := by
  have honce := gateway.namedOnce_plainHeaders (textHeaders asked)
  have hname : lowered "Cookie" = "cookie" := by decide
  have hkept (field : String × String) (hm : field ∈ gateway.plainHeaders (textHeaders asked)) :
      field ∈ (gateway.plainHeaders (textHeaders asked)).set "Cookie" cookie := by
    have hother : ¬ Headers.sameName "Cookie" field.1 = true := fun hs =>
      hlacks field (default_or_granted_of_mem hm) ((Headers.sameName_iff.mp hs).symm.trans hname)
    have hfirst := Headers.first?_set "Cookie" cookie (gateway.plainHeaders (textHeaders asked)) field.1
    rw [if_neg hother, honce.first?_of_mem hm] at hfirst
    exact Headers.mem_of_first? hfirst
  refine ⟨honce.set _ _, fun field hm => ?_, ?_, ?_, ?_⟩
  · rcases Headers.mem_of_mem_set hm with rfl | hm
    · exact .inr (.inr ⟨rfl, (hc cookie).mpr rfl, hlacks⟩)
    · exact (default_or_granted_of_mem hm).imp_right .inl
  · exact fun field h ha => hkept field (mem_plainHeaders_of_lastText h ha)
  · exact fun field hm ho => hkept field (mem_plainHeaders_of_default hd hm ho)
  · intro _ value hv
    obtain rfl := (hc value).mp hv
    have hfirst := Headers.first?_set "Cookie" value (gateway.plainHeaders (textHeaders asked)) "Cookie"
    rw [if_pos (Headers.sameName_iff.mpr rfl)] at hfirst
    exact Headers.mem_of_first? hfirst

/-- When no default is named twice and the store can be read, every request has its fields, whatever a caller gives, and they
are composed as they should be. -/
theorem requestHeaders_composed (gateway : Gateway) (hd : gateway.config.defaultHeaders.NamedOnce) (files : FileSystem)
    (hs : ∀ store, gateway.store? = some store → store.Readable files) (asked : List (String × Tree)) (url : String)
    (sourceId? : Option String) :
    ∃ headers files', outcome (gateway.requestHeaders (textHeaders asked) url sourceId?) files = (.ok headers, files') ∧
      Composed gateway asked url sourceId? files headers := by
  obtain ⟨headers, files', hh, hcases⟩ := requestHeaders_of_readable hs (textHeaders asked) url sourceId?
  refine ⟨headers, files', hh, ?_⟩
  rcases hcases with ⟨rfl, hc⟩ | ⟨cookie, rfl, hnames, hc⟩
  · exact composed_plainHeaders hd fun hlacks => hc (lacksCookie_iff.mp hlacks)
  · exact .set_cookie hd (lacksCookie_iff.mpr hnames) hc

/-- The later of two spellings counts, what is no text is passed over, and the cookie of the store is added. -/
theorem requestHeaders_composed_mixed :
    let store : CredentialStore := ⟨⟨"/", ["auth.json"]⟩⟩
    let gateway : Gateway := ⟨.standard, fun _ => .ok [], some store⟩
    let records : List Credential := [⟨"s", [("a.test", "k=1")], []⟩]
    let files : FileSystem := ⟨⟨"/", []⟩, [(["auth.json"], .file (Credential.fileText records).toUTF8)]⟩
    let asked : List (String × Tree) := [("ACCEPT", .text "text/html"), ("Cache-Control", .integer 1),
      ("accept", .text "text/plain"), ("X-Forwarded-For", .text "10.0.0.1"), ("Cookie", .null)]
    gateway.config.defaultHeaders.NamedOnce ∧ (∀ store, gateway.store? = some store → store.Readable files) ∧
    ∃ headers files', outcome (gateway.requestHeaders (textHeaders asked) "http://a.test/p" (some "s")) files =
        (.ok headers, files') ∧
      Composed gateway asked "http://a.test/p" (some "s") files headers ∧
      ("accept", "text/plain") ∈ headers ∧ ("Cache-Control", "no-cache") ∈ headers ∧ ("Cookie", "k=1") ∈ headers := by
  intro store gateway records files asked
  have hdefault : gateway.config.defaultHeaders.NamedOnce := by
    show List.Nodup _
    decide
  have hholds : store.Holds files records :=
    .written rfl (List.forall_mem_singleton.mpr ⟨⟨by decide, .nil⟩, by decide⟩)
  have hreadable : ∀ store, gateway.store? = some store → store.Readable files := by
    rintro _ ⟨⟩
    obtain ⟨_, hread, -⟩ := hholds.read
    exact ⟨records, congrArg Prod.fst hread⟩
  obtain ⟨headers, files', hh, hcomposed⟩ :=
    requestHeaders_composed gateway hdefault files hreadable asked "http://a.test/p" (some "s")
  have haccept : LastText asked ("accept", "text/plain") := by
    refine ⟨asked.take 2, asked.drop 3, rfl, fun name text hm => ?_⟩
    have hlater : Headers.names (textHeaders (asked.drop 3)) "accept" = false := by decide +kernel
    exact Headers.names_eq_false_iff.mp hlater (name, text) (mem_textHeaders.mpr hm)
  have hcache : ∀ other, gateway.Granted asked other → lowered other.1 ≠ lowered "Cache-Control" := by
    have hother : Headers.names ((textHeaders asked).only gateway.config.requestHeaders) "Cache-Control" = false := by
      decide +kernel
    exact fun other h => Headers.names_eq_false_iff.mp hother other (granted_iff.mp h)
  have hlacks : gateway.LacksCookie asked := lacksCookie_iff.mpr (by decide +kernel)
  have hcookie : gateway.HasCookie (some "s") files "http://a.test/p" "k=1" := by
    obtain ⟨_, hlook, -⟩ := hholds.cookieFor "s" "http://a.test/p"
    have hk : StoreCall.cookieIn records "s" "http://a.test/p" = "k=1" := by decide +kernel
    rw [hk] at hlook
    exact ⟨"s", store, rfl, by decide, rfl, by decide, congrArg Prod.fst hlook⟩
  exact ⟨hdefault, hreadable, headers, files', hh, hcomposed, hcomposed.given _ haccept (by decide),
    hcomposed.default _ (by decide) hcache, hcomposed.stored hlacks _ hcookie⟩

end Gateway

end SiteReader
