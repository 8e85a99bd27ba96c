import SiteReader.Proofs.Gateway.Exchange
import SiteReader.Proofs.Header

/-!
# What is handed back

The answer of a fetch is made from its last reply (`Course.exists_answer`): the bytes of all parts of the body
(`bytes_of_readFrom`), the fields of the reply that may be handed back, in their order, then the length of the body, and last
the fields that let pages of any origin read the answer (`responseHeaders_answer`).  With the usual policy no name comes from
two of these, in whatever letter case the other side spells it, so that the answer is screened (`fetch_answer_screened`).
-/

namespace SiteReader

open Headers (NamedOnce)

namespace Gateway

/-! ### The fields -/

/-- The fields of a reply that are handed back as they came. -/
def passedOn (reply : Reply) : Headers :=
  (reply.headers.distinct.without transferHeaders).only Config.standard.responseHeaders

/-- The field that tells the length of a body. -/
def lengthField (body : ByteArray) : String × String :=
  ("Content-Length", toString body.size)

theorem mem_passedOn {reply : Reply} {field : String × String} (h : field ∈ passedOn reply) :
    lowered field.1 ∈ Config.standard.responseHeaders ∧ lowered field.1 ∉ transferHeaders :=
  ⟨Headers.lowered_mem_of_mem_only h, fun ht => Headers.not_mem_without ht (Headers.mem_of_mem_only h)⟩

theorem lowered_lengthField (body : ByteArray) : lowered (lengthField body).1 = "content-length" :=
  (by decide : lowered "Content-Length" = "content-length")

/-- The names of the fields that the gateway sets itself. -/
theorem lowered_own {body : ByteArray} {field : String × String} (h : field ∈ lengthField body :: corsHeaders) :
    lowered field.1 = "content-length" ∨ lowered field.1 ∉ Config.standard.responseHeaders := by
  have hcors : ∀ cors ∈ corsHeaders, lowered cors.1 ∉ Config.standard.responseHeaders := by decide
  rcases List.mem_cons.mp h with rfl | h
  · exact .inl (lowered_lengthField body)
  · exact .inr (hcors field h)

theorem namedOnce_own (body : ByteArray) : NamedOnce (lengthField body :: corsHeaders) := by
  have hnames : (["Content-Length", "Access-Control-Allow-Origin", "Access-Control-Allow-Methods",
    "Access-Control-Allow-Headers"].map lowered).Nodup := by decide
  exact hnames

theorem not_own_of_passedOn {reply : Reply} {body : ByteArray} {field own : String × String} (h : field ∈ passedOn reply)
    (ho : own ∈ lengthField body :: corsHeaders) : lowered field.1 ≠ lowered own.1 := by
  obtain ⟨hallowed, hkept⟩ := mem_passedOn h
  intro heq
  rcases lowered_own ho with hlength | hout
  · exact hkept (by rw [heq, hlength]; decide)
  · exact hout (heq ▸ hallowed)

theorem namedOnce_answer (reply : Reply) (body : ByteArray) :
    NamedOnce (passedOn reply ++ lengthField body :: corsHeaders) := by
  have hpassed : (passedOn reply).NamedOnce := ((Headers.namedOnce_distinct reply.headers).filter _).filter _
  exact hpassed.append (namedOnce_own body) fun _ ha _ hb => not_own_of_passedOn ha hb

/-- What the gateway sets itself comes after what is passed on. -/
theorem responseHeaders_answer {gateway : Gateway}
    (hallowed : gateway.config.responseHeaders = Config.standard.responseHeaders) (reply : Reply) (body : ByteArray) :
    gateway.responseHeaders (updateEntries (reply.headers.distinct.without transferHeaders) [lengthField body]) =
      passedOn reply ++ lengthField body :: corsHeaders := by
  have habsent : "Content-Length" ∉ (reply.headers.distinct.without transferHeaders).map Prod.fst := by
    intro hm
    obtain ⟨⟨name, value⟩, hm, rfl⟩ := List.mem_map.mp hm
    exact Headers.not_mem_without (by decide) hm
  have hset : updateEntries (reply.headers.distinct.without transferHeaders) [lengthField body] =
      reply.headers.distinct.without transferHeaders ++ [lengthField body] := setEntry_of_not_mem habsent
  have hcontains : Config.standard.responseHeaders.contains (lowered (lengthField body).1) = true := by
    rw [lowered_lengthField]
    decide
  have hlength : Headers.only Config.standard.responseHeaders [lengthField body] = [lengthField body] :=
    List.filter_cons_of_pos hcontains
  have hsplit : passedOn reply ++ lengthField body :: corsHeaders = (passedOn reply ++ [lengthField body]) ++ corsHeaders := by
    rw [List.append_assoc, List.singleton_append]
  have honce := (namedOnce_answer reply body).nodup
  rw [hsplit] at honce ⊢
  rw [responseHeaders, hallowed, hset, Headers.only, List.filter_append]
  show updateEntries (passedOn reply ++ Headers.only Config.standard.responseHeaders [lengthField body]) corsHeaders = _
  rw [hlength, updateEntries_of_nodup honce]

/-- An answer is screened: it has no name twice, and no fields but those of the reply that may be handed back and those that
the gateway sets.  The latter have fixed values, whatever the reply says; the length is that of the body, which is what the
parts of the reply come to, one after the other. -/
structure Screened (reply : Reply) (response : Response) : Prop where
  status_eq : response.status = reply.status
  namedOnce : response.headers.NamedOnce
  allowed : ∀ field ∈ response.headers, lowered field.1 ∈ Config.standard.responseHeaders ∨ field ∈ corsHeaders
  absent : ∀ field ∈ response.headers, lowered field.1 ≠ "content-encoding" ∧ lowered field.1 ≠ "set-cookie"
  cors : ∀ field ∈ corsHeaders, response.headers.first? field.1 = some field
  length : response.headers.filter (fun field => lowered field.1 = "content-length") =
    [("Content-Length", toString response.body.size)]
  kept : ∀ name, lowered name ∈ Config.standard.responseHeaders → lowered name ∉ transferHeaders →
    response.headers.first? name = reply.headers.last? name
  body_eq : response.body.data.toList = reply.chunks.flatMap fun chunk => chunk.bytes.data.toList

theorem first?_own_of_kept {name : String} (ha : lowered name ∈ Config.standard.responseHeaders)
    (hk : lowered name ∉ transferHeaders) (body : ByteArray) :
    Headers.first? (lengthField body :: corsHeaders) name = none := by
  refine List.find?_eq_none.mpr fun own ho hs => ?_
  have hname : lowered own.1 = lowered name := Headers.sameName_iff.mp hs
  rcases lowered_own ho with hlength | hout
  · exact hk (by rw [← hname, hlength]; decide)
  · exact hout (hname ▸ ha)

theorem screened_answer {reply : Reply} {body : ByteArray}
    (hbody : body.data.toList = reply.chunks.flatMap fun chunk => chunk.bytes.data.toList) :
    Screened reply ⟨reply.status, passedOn reply ++ lengthField body :: corsHeaders, body⟩ where
  status_eq := rfl
  namedOnce := namedOnce_answer reply body
  allowed field hm := by
    rcases List.mem_append.mp hm with hm | hm
    · exact .inl (mem_passedOn hm).1
    · rcases List.mem_cons.mp hm with rfl | hm
      · exact .inl (lowered_lengthField body ▸ by decide)
      · exact .inr hm
  absent field hm := by
    rcases List.mem_append.mp hm with hm | hm
    · obtain ⟨hallowed, hkept⟩ := mem_passedOn hm
      exact ⟨fun heq => hkept (heq ▸ by decide), fun heq => absurd (heq ▸ hallowed) (by decide)⟩
    · have hcors : ∀ cors ∈ corsHeaders, lowered cors.1 ≠ "content-encoding" ∧ lowered cors.1 ≠ "set-cookie" := by decide
      rcases List.mem_cons.mp hm with rfl | hm
      · rw [lowered_lengthField]
        decide
      · exact hcors field hm
  cors field hm :=
    (namedOnce_answer reply body).first?_of_mem (List.mem_append_right _ (List.mem_cons_of_mem _ hm))
  length := by
    have hpassed : (passedOn reply).filter (fun field => lowered field.1 = "content-length") = [] := by
      refine List.filter_eq_nil_iff.mpr fun field hm heq => ?_
      exact (mem_passedOn hm).2 (of_decide_eq_true heq ▸ by decide)
    have hcors : corsHeaders.filter (fun field => lowered field.1 = "content-length") = [] := by decide
    rw [List.filter_append, hpassed, List.filter_cons, if_pos (decide_eq_true (lowered_lengthField body)), hcors]
    rfl
  kept name ha hk := by
    rw [Headers.first?_append, first?_own_of_kept ha hk, Option.or_none, passedOn, Headers.first?_only ha,
      Headers.first?_without hk, Headers.first?_distinct]
  body_eq := hbody

/-! ### A fetch -/

variable {τ : Type} [Clock τ]

theorem eq_of_answerOf {reply : Reply} {url : String} {body : ByteArray} {response : Response}
    (h : answerOf reply url body = .ok response) : response =
      ⟨reply.status, updateEntries (reply.headers.distinct.without transferHeaders) [lengthField body], body⟩ := by
  unfold answerOf at h
  split at h
  next => exact (Except.ok.inj h).symm
  next => cases h

/-- With the usual policy for what is handed back, a fetch that succeeds answers with what its last reply comes to when it is
screened. -/
theorem fetch_answer_screened (gateway : Gateway)
    (hallowed : gateway.config.responseHeaders = Config.standard.responseHeaders) (directive : Directive)
    (timeout? : Option Duration) (sourceId? : Option String) (world world' : World τ) (response : Response)
    (h : outcome (gateway.fetch directive timeout? sourceId?) world = (.ok response, world')) :
    ∃ sent k, world'.requests = world.requests ++ sent ∧ k + 1 = sent.length ∧ Screened (world.replyAt k) response := by
  rcases fetch_cases gateway directive timeout? sourceId? world with
    ⟨failure, -, hf⟩ | ⟨span, origin, sent, result, ended, -, -, -, course, hf⟩
  · cases h.symm.trans hf
  · obtain ⟨hresult, rfl⟩ := Prod.mk.inj (h.symm.trans hf)
    cases result with
    | error failure => cases hresult
    | ok answered =>
      obtain rfl := Except.ok.inj hresult
      obtain ⟨k, url, body, hk, hread, hanswer, -⟩ := course.exists_answer
      refine ⟨sent, k, by rw [requests_logged, course.requests_eq], hk, ?_⟩
      have hscreened := screened_answer (bytes_of_readFrom hread)
      rw [← responseHeaders_answer hallowed] at hscreened
      rw [eq_of_answerOf hanswer]
      exact hscreened

theorem fetch_answer_screened_odd_spellings :
    let gateway : Gateway := ⟨.standard, fun _ => .ok [], none⟩
    let headers : Headers := [("CONTENT-TYPE", "text/plain"), ("access-control-allow-origin", "http://b.example"),
      ("set-Cookie", "k=v"), ("content-Encoding", "gzip"), ("content-type", "text/html"), ("CONTENT-length", "99")]
    let reply : Reply := ⟨200, headers, [⟨"ab".toUTF8, .whole 5, none⟩, ⟨"c".toUTF8, .whole 5, none⟩], .whole 20, none⟩
    let world := { World.start Rat ⟨"/", []⟩ reply with replies := [⟨302, [("Location", "/b")], [], .whole 30, none⟩] }
    gateway.config.responseHeaders = Config.standard.responseHeaders ∧ ∃ response world',
      outcome (gateway.fetch ⟨"http://example.com/a", "GET", [], none⟩ none none) world = (.ok response, world') ∧
      Screened reply response ∧
      response.headers = ("content-type", "text/html") :: ("Content-Length", "3") :: corsHeaders := by
  intro gateway headers reply world
  have hfetched : (outcome (gateway.fetch ⟨"http://example.com/a", "GET", [], none⟩ none none) world).1.map (·.headers) =
      .ok (("content-type", "text/html") :: ("Content-Length", "3") :: corsHeaders) := by decide +kernel
  have hrequests : (outcome (gateway.fetch ⟨"http://example.com/a", "GET", [], none⟩ none none) world).2.requests.length =
      2 := by decide +kernel
  rcases hf : outcome (gateway.fetch ⟨"http://example.com/a", "GET", [], none⟩ none none) world with
    ⟨failure | response, world'⟩
  · rw [hf] at hfetched
    cases hfetched
  · rw [hf] at hfetched hrequests
    obtain ⟨sent, k, hsent, hk, hscreened⟩ := fetch_answer_screened gateway rfl _ none none world world' response hf
    have hlength : sent.length = 2 := by
      rw [← hrequests, hsent]
      rfl
    obtain rfl : k = 1 := by omega
    exact ⟨rfl, response, world', rfl, hscreened, Except.ok.inj hfetched⟩

end Gateway

end SiteReader
