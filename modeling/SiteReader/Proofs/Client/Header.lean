import SiteReader.Proofs.Client.Request

/-!
# Which header fields go out

The fields of a directive are set over those of its source by their spellings, and the gateway merges the result into its
own fields by their names.  So the first request for a document has no name twice, and under a name that callers may set it
has the last field of the source, or the one of the gateway, unless the directive gives the name.  The last field of the
directive goes out exactly if it prevails over the source (`Client.document_first_headers`), which it does where neither of
the two spells the name in two ways.
-/

namespace SiteReader

namespace Gateway

/-- Of each name that callers may set, the last field asked for goes out, or else the one of the gateway. -/
theorem first?_requestHeaders {gateway : Gateway} {asked headers : Headers} {url : String} {sourceId? : Option String}
    {files : FileSystem} (h : (outcome (gateway.requestHeaders asked url sourceId?) files).1 = .ok headers) :
    headers.NamedOnce ∧ ∀ name, lowered name ∈ gateway.config.requestHeaders →
      (lowered name = "cookie" → asked.names name = true) →
      headers.first? name = (asked.last? name).or (gateway.config.defaultHeaders.last? name) := by
  have hplain := gateway.namedOnce_plainHeaders asked
  have hfirst (name : String) (ha : lowered name ∈ gateway.config.requestHeaders) :
      (gateway.plainHeaders asked).first? name = (asked.last? name).or (gateway.config.defaultHeaders.last? name) := by
    rw [first?_plainHeaders, Headers.last?_only ha]
  rcases requestHeaders_cases (Prod.ext h rfl) with ⟨rfl, -⟩ | ⟨_, _, cookie, -, -, -, hnames, -, rfl | ⟨-, rfl⟩⟩
  · exact ⟨hplain, fun name ha _ => hfirst name ha⟩
  · exact ⟨hplain, fun name ha _ => hfirst name ha⟩
  · refine ⟨hplain.set _ _, fun name ha hcookie => ?_⟩
    have hother : Headers.sameName "Cookie" name = false := by
      refine Bool.eq_false_iff.mpr fun hs => ?_
      have hname : lowered name = "cookie" := (Headers.sameName_iff.mp hs).symm.trans (by decide)
      -- a cookie that was asked for is among the plain fields, and then none of the store is added
      have hthere : (gateway.plainHeaders asked).names name = true := by
        rw [← Headers.isSome_first?, hfirst name ha, Option.isSome_or, Headers.isSome_last?, hcookie hname]
        rfl
      rw [Headers.names_congr (hname.trans (by decide : "cookie" = lowered "cookie")), hnames] at hthere
      cases hthere
    rw [Headers.first?_set, hother, hfirst name ha]
    rfl

end Gateway

namespace Client

open Gateway (World firstRequest?)

variable {τ : Type} [Clock τ]

/-- The fields that the gateway makes the request from: a cookie of the store, which stands in front where nobody asks for
one, and those of the directive set over those of the source. -/
theorem firstHeaders_cases {client : Client} {source : Source} {asked : Directive} {target : String} {files : FileSystem}
    {headers : Headers} (h : (outcome (client.firstHeaders source asked target) files).1 = .ok headers) :
    ∃ cookies files',
      (cookies = [] ∨ (source.merged asked).names "cookie" = false ∧ ∃ cookie, cookies = [("Cookie", cookie)]) ∧
      (outcome (client.gateway.requestHeaders (cookies ++ source.merged asked)
        (Url.throughRelay target source.relay?) (some source.id)) files').1 = .ok headers := by
  rw [firstHeaders, outcome_bind] at h
  rcases hc : outcome (client.relayFields source (source.merged asked) target) files with ⟨failure | cookies, files'⟩
  · rw [hc] at h
    cases h
  · rw [hc] at h
    exact ⟨cookies, files', relayFields_cases (congrArg Prod.fst hc), h⟩

/-- A cookie in front is not the last field of any name that is asked for. -/
theorem last?_append_cookie {cookies headers : Headers} {name : String}
    (h : cookies = [] ∨ headers.names "cookie" = false ∧ ∃ cookie, cookies = [("Cookie", cookie)])
    (hname : lowered name = "cookie" → headers.names name = true) :
    Headers.last? (cookies ++ headers) name = headers.last? name := by
  rcases h with rfl | ⟨hnames, cookie, rfl⟩
  · rfl
  · rw [Headers.last?_append]
    cases hl : headers.last? name with
    | some field => rfl
    | none =>
      have hother : ¬ Headers.sameName "Cookie" name = true := by
        intro hs
        have hthere := hname ((Headers.sameName_iff.mp hs).symm.trans (by decide))
        rw [Headers.last?_eq_none_iff, hthere] at hl
        cases hl
      rw [Option.none_or, Headers.last?_singleton, if_neg hother]

/-- The fields of the first request come from those that are asked for, set over those of the source. -/
private theorem first?_of_first {client : Client} {source? : Option Source} {raw : String} {timeout? : Option Duration}
    {world : World τ} {request : Gateway.Request τ}
    (h : firstRequest? (client.document source? raw timeout?) world = some request) :
    let merged : Headers := updateEntries (source?.elim [] Source.fields) (Directive.read raw).headers
    request.headers.NamedOnce ∧ ∀ name, lowered name ∈ client.gateway.config.requestHeaders →
      (lowered name = "cookie" → merged.names name = true) →
      request.headers.first? name = (merged.last? name).or (client.gateway.config.defaultHeaders.last? name) := by
  cases source? with
  | none =>
    obtain ⟨-, -, hfields⟩ := (client.opens_document_none raw timeout? world).first request h
    have hmerged : updateEntries [] (Directive.read raw).headers = (Directive.read raw).headers :=
      distinctEntries_of_nodup (Directive.nodup_read raw)
    simp only [Option.elim_none, hmerged]
    exact Gateway.first?_requestHeaders hfields
  | some source =>
    cases ht : source.target (Directive.read raw).url with
    | error fault =>
      rw [firstRequest?, (client.document_of_target_error raw timeout? world ht).1] at h
      simp at h
    | ok target =>
      obtain ⟨-, -, hfields⟩ := (client.opens_document raw timeout? world ht).first request h
      obtain ⟨cookies, files, hcookies, hheaders⟩ := firstHeaders_cases hfields
      obtain ⟨honce, hfirst⟩ := Gateway.first?_requestHeaders hheaders
      refine ⟨honce, fun name ha hcookie => ?_⟩
      have hlast := last?_append_cookie hcookies hcookie
      rw [hfirst name ha fun hname => ?_, hlast]
      · rfl
      · rw [← Headers.isSome_last?, hlast, Headers.isSome_last?]
        exact hcookie hname

/-- The first request for a document has no name twice.  Under each name that callers may set, other than for a cookie that
nobody asks for, it has the last field that comes of setting the fields of the directive over those of the source, or else
that of the gateway: the last one of the source where the directive does not give the name, and the last one of the directive
if and only if that one prevails. -/
theorem document_first_headers {client : Client} {source? : Option Source} {raw : String} {timeout? : Option Duration}
    {world : World τ} {request : Gateway.Request τ}
    (h : firstRequest? (client.document source? raw timeout?) world = some request) :
    let config := client.gateway.config
    let asked : Headers := (Directive.read raw).headers
    let own : Headers := source?.elim [] Source.fields
    request.headers.NamedOnce ∧
      ∀ name, lowered name ∈ config.requestHeaders →
        (lowered name = "cookie" → asked.names name = true ∨ own.names name = true) →
        request.headers.first? name = (Headers.last? (updateEntries own asked) name).or (config.defaultHeaders.last? name) ∧
        (asked.names name = false →
          request.headers.first? name = (own.last? name).or (config.defaultHeaders.last? name)) ∧
        (∀ field, asked.last? name = some field →
          (request.headers.first? name = some field ↔ Headers.Prevails own asked field)) ∧
        (own.SpelledOnce name → asked.SpelledOnce name →
          request.headers.first? name =
            (asked.last? name).or ((own.last? name).or (config.defaultHeaders.last? name))) := by
  intro config asked own
  have hasked : (asked.map Prod.fst).Nodup := Directive.nodup_read raw
  have hown : (own.map Prod.fst).Nodup := by
    cases source? with
    | none => exact .nil
    | some source => exact source.nodup_fields
  obtain ⟨honce, hfirst⟩ := first?_of_first h
  refine ⟨honce, fun name ha hcookie => ?_⟩
  have hsent := hfirst name ha fun hname => Headers.names_updateEntries hown hasked (hcookie hname)
  have hprevails (field : String × String) (hf : asked.last? name = some field) :
      request.headers.first? name = some field ↔ Headers.Prevails own asked field := by
    have hnames : asked.names name = true := by
      rw [← Headers.isSome_last?, hf]
      rfl
    have hsome := Headers.names_updateEntries hown hasked (.inl hnames)
    rw [← Headers.isSome_last?] at hsome
    rw [← Headers.last?_updateEntries_eq_iff hown hasked hf, hsent, Option.or_of_isSome hsome]
  have habsent (hnone : asked.names name = false) :
      request.headers.first? name = (own.last? name).or (config.defaultHeaders.last? name) := by
    rw [hsent, Headers.last?_updateEntries_of_not_names hown hasked hnone]
  refine ⟨hsent, habsent, hprevails, fun ho hn => ?_⟩
  cases hl : asked.last? name with
  | none => exact habsent (Headers.last?_eq_none_iff.mp hl)
  | some field => exact (hprevails field hl).mpr (Headers.prevails_of_spelledOnce ho hn hl)

/-- A third spelling prevails over the two of a source, and other names are left to the source and the gateway. -/
theorem document_first_headers_third_spelling :
    let client : Client := ⟨⟨.standard, fun _ => .ok [], none⟩, none⟩
    let header := "\x7b\"Referer\": \"s1\", \"referer\": \"s2\", \"Accept\": \"text/html\"\x7d"
    let source : Source := { Source.bare "s" with url := "http://a.test/", header? := some header }
    let raw := "/p,\x7b\"headers\": \x7b\"REFERER\": \"d\"\x7d\x7d"
    ∃ request, firstRequest? (client.document (some source) raw none)
        (World.start Rat ⟨"/", []⟩ ⟨200, [], [], .whole 0, none⟩) = some request ∧ request.headers.NamedOnce ∧
      Headers.last? (Directive.read raw).headers "referer" = some ("REFERER", "d") ∧
      Headers.Prevails source.fields (Directive.read raw).headers ("REFERER", "d") ∧
      request.headers.first? "referer" = some ("REFERER", "d") ∧
      request.headers.first? "accept" = some ("Accept", "text/html") ∧
      request.headers.first? "cache-control" = some ("Cache-Control", "no-cache") := by
  intro client header source raw
  obtain ⟨request, h⟩ : ∃ request, firstRequest? (client.document (some source) raw none)
      (World.start Rat ⟨"/", []⟩ ⟨200, [], [], .whole 0, none⟩) = some request :=
    Option.isSome_iff_exists.mp (by decide +kernel)
  obtain ⟨honce, hfields⟩ := document_first_headers h
  have hlast : Headers.last? (Directive.read raw).headers "referer" = some ("REFERER", "d") := by decide +kernel
  have hprevails : Headers.Prevails source.fields (Directive.read raw).headers ("REFERER", "d") := .inl (by decide +kernel)
  obtain ⟨-, -, hreferer, -⟩ := hfields "referer" (by decide) nofun
  rw [Option.elim_some] at hreferer
  obtain ⟨-, haccept, -⟩ := hfields "accept" (by decide) nofun
  obtain ⟨-, hcontrol, -⟩ := hfields "cache-control" (by decide) nofun
  exact ⟨request, h, honce, hlast, hprevails, (hreferer _ hlast).mpr hprevails,
    (haccept (by decide +kernel)).trans (by decide +kernel), (hcontrol (by decide +kernel)).trans (by decide +kernel)⟩

/-- Where a source spells a name in two ways, the last field of a directive for this name may be overridden. -/
theorem document_first_headers_overridden :
    ¬ ∀ (source : Source) (raw : String) (request : Gateway.Request Rat),
      firstRequest? ((Client.mk ⟨.standard, fun _ => .ok [], none⟩ none).document (some source) raw none)
        (World.start Rat ⟨"/", []⟩ ⟨200, [], [], .whole 0, none⟩) = some request →
      ∀ name ∈ Gateway.Config.standard.requestHeaders, name ≠ "cookie" → ∀ field,
        Headers.last? (Directive.read raw).headers name = some field → request.headers.value? name = some field.2 := by
  intro h
  let header := "\x7b\"Referer\":\"s1\",\"referer\":\"s2\"\x7d"
  let source : Source := { Source.bare "s" with url := "http://a.test/", header? := some header }
  let raw := "http://a.test/,\x7b\"headers\":\x7b\"Referer\":\"d\"\x7d\x7d"
  have hsent : (firstRequest? ((Client.mk ⟨.standard, fun _ => .ok [], none⟩ none).document (some source) raw none)
      (World.start Rat ⟨"/", []⟩ ⟨200, [], [], .whole 0, none⟩)).map (·.headers.value? "referer") = some (some "s2") := by
    decide +kernel
  obtain ⟨request, hrequest, hvalue⟩ := Option.map_eq_some_iff.mp hsent
  have hclaimed := h source raw request hrequest "referer" (by decide) (by decide) ("Referer", "d") (by decide +kernel)
  rw [hvalue] at hclaimed
  exact absurd hclaimed (by decide)

end Client

end SiteReader
