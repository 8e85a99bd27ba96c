import SiteReader.Gateway.Fetch
import SiteReader.Proofs.Number.Range

/-!
# Reading payloads

A payload that asks for something has a URL, and header fields, a body and a timeout of the right kind if it has any
(`Asks`, `IsTimeout`).  Every other payload is an invalid request (`readPayload_of_misshapen`), with one exception: a
timeout that is not a number passes the check for positive numbers, and then has no whole milliseconds.  Neither has an
infinite one, so that both end the reading with a fault; each other timeout is read (`payloadTimeout_of_isTimeout`).
-/

namespace SiteReader.Gateway

/-! ### What is asked for -/

/-- The fields of a payload name a URL; header fields and a body, if given, are of the right kind. -/
structure Asks (fields : List (String × Tree)) (url : String) : Prop where
  url_eq : Tree.field? "url" fields = some (.text url)
  url_ne : url ≠ ""
  headers : ∀ t, Tree.field? "headers" fields = some t → (∃ headers, t = .object headers) ∨ t.isTruthy = false
  body : ∀ t, Tree.field? "body" fields = some t → t = .null ∨ ∃ body, t = .text body

/-- No timeout, or a number above zero. -/
def IsTimeout : Option Tree → Prop
  | none => True
  | some .null => True
  | some (.integer n) => 0 < n
  | some (.double x) => Double.isLess .zero x = true
  | some _ => False

/-- A timeout whose whole milliseconds can be told in seconds: not infinite, and not beyond all floating-point numbers. -/
def IsExpressible : Option Tree → Prop
  | some (.integer n) => n < 1000 * Double.overflowBound
  | some (.double x) => x.IsFinite
  | _ => True

/-- A payload that asks for nothing, or with a timeout that is no number above zero.  Not-a-number is left out here. -/
def Misshapen (payload : Tree) : Prop :=
  ∀ fields url, payload = .object fields → Asks fields url →
    ¬ IsTimeout (Tree.field? "timeout" fields) ∧ Tree.field? "timeout" fields ≠ some (.double .nan)

/-! ### One field after the other -/

/-- The URL of a payload. -/
def payloadUrl (fields : List (String × Tree)) : Except Failure String :=
  match Tree.field? "url" fields with
  | some (.text url) => if url.isEmpty then .error (.invalidRequest .noUrl) else .ok url
  | _ => .error (.invalidRequest .noUrl)

/-- The header fields of a payload; a value that counts as nothing is none. -/
def payloadHeaders (fields : List (String × Tree)) : Except Failure (List (String × Tree)) :=
  match Tree.field? "headers" fields with
  | none => .ok []
  | some (.object headers) => .ok headers
  | some t => if t.isTruthy then .error (.invalidRequest .headers) else .ok []

/-- The body of a payload. -/
def payloadBody (fields : List (String × Tree)) : Except Failure (Option String) :=
  match Tree.field? "body" fields with
  | none => .ok none
  | some .null => .ok none
  | some (.text body) => .ok (some body)
  | some _ => .error (.invalidRequest .body)

/-- The method of a payload. -/
def payloadMethod (fields : List (String × Tree)) : String :=
  match Tree.field? "method" fields with
  | some t => if t.isTruthy then uppered t.plainText else "GET"
  | none => "GET"

theorem readPayload_eq (fields : List (String × Tree)) : readPayload (.object fields) = (do
    let url ← payloadUrl fields
    let headers ← payloadHeaders fields
    let body? ← payloadBody fields
    let timeout? ← payloadTimeout (Tree.field? "timeout" fields)
    return (⟨url, payloadMethod fields, textHeaders headers, body?⟩, timeout?)) := by
  have hbody {α : Type} (k : Option String → Except Failure α) : (match Tree.field? "body" fields with
      | none => pure none >>= k
      | some .null => pure none >>= k
      | some (.text body) => pure (some body) >>= k
      | some _ => throw (.invalidRequest .body) >>= k) = payloadBody fields >>= k := by
    unfold payloadBody
    split <;> rfl
  have hheaders {α : Type} (k : List (String × Tree) → Except Failure α) : (match Tree.field? "headers" fields with
      | none => pure [] >>= k
      | some (.object headers) => pure headers >>= k
      | some t => if t.isTruthy then throw (.invalidRequest .headers) >>= k else pure [] >>= k) =
        payloadHeaders fields >>= k := by
    unfold payloadHeaders
    split
    next => rfl
    next => rfl
    next => split <;> rfl
  have hurl {α : Type} (k : String → Except Failure α) : (match Tree.field? "url" fields with
      | some (.text url) => if url.isEmpty then throw (.invalidRequest .noUrl) >>= k else pure url >>= k
      | _ => throw (.invalidRequest .noUrl) >>= k) = payloadUrl fields >>= k := by
    unfold payloadUrl
    split
    next => split <;> rfl
    next => rfl
  rw [← hurl]
  simp only [← hheaders, ← hbody]
  rfl

theorem payloadUrl_cases (fields : List (String × Tree)) :
    (∃ url, payloadUrl fields = .ok url ∧ Tree.field? "url" fields = some (.text url) ∧ url ≠ "") ∨
      payloadUrl fields = .error (.invalidRequest .noUrl) ∧
        ∀ url, Tree.field? "url" fields = some (.text url) → url = "" := by
  unfold payloadUrl
  split
  next url hu =>
    split
    next he =>
      refine .inr ⟨rfl, fun url' hu' => ?_⟩
      obtain rfl := Tree.text.inj (Option.some.inj (hu.symm.trans hu'))
      simpa using he
    next he => exact .inl ⟨url, rfl, hu, by simpa using he⟩
  next hu => exact .inr ⟨rfl, fun url hu' => absurd hu' (hu url)⟩

theorem payloadHeaders_cases (fields : List (String × Tree)) :
    (∃ headers, payloadHeaders fields = .ok headers ∧ ∀ t, Tree.field? "headers" fields = some t →
      (∃ headers, t = .object headers) ∨ t.isTruthy = false) ∨
      payloadHeaders fields = .error (.invalidRequest .headers) ∧ ∃ t, Tree.field? "headers" fields = some t ∧
        (∀ headers, t ≠ .object headers) ∧ t.isTruthy = true := by
  unfold payloadHeaders
  split
  next hn => exact .inl ⟨_, rfl, fun t ht => by rw [hn] at ht; cases ht⟩
  next headers ho =>
    exact .inl ⟨_, rfl, fun t ht => .inl ⟨headers, (Option.some.inj (ho.symm.trans ht)).symm⟩⟩
  next t hne ht =>
    split
    next htruthy => exact .inr ⟨rfl, t, ht, hne, htruthy⟩
    next hfalsy =>
      refine .inl ⟨_, rfl, fun t' ht' => .inr ?_⟩
      obtain rfl := Option.some.inj (ht.symm.trans ht')
      simpa using hfalsy

theorem payloadBody_cases (fields : List (String × Tree)) :
    (∃ body?, payloadBody fields = .ok body? ∧ ∀ t, Tree.field? "body" fields = some t →
      t = .null ∨ ∃ body, t = .text body) ∨
      payloadBody fields = .error (.invalidRequest .body) ∧ ∃ t, Tree.field? "body" fields = some t ∧ t ≠ .null ∧
        ∀ body, t ≠ .text body := by
  unfold payloadBody
  split
  next hn => exact .inl ⟨_, rfl, fun t ht => by rw [hn] at ht; cases ht⟩
  next hn => exact .inl ⟨_, rfl, fun t ht => .inl (Option.some.inj (hn.symm.trans ht)).symm⟩
  next body hb => exact .inl ⟨_, rfl, fun t ht => .inr ⟨body, (Option.some.inj (hb.symm.trans ht)).symm⟩⟩
  next t hnull htext ht => exact .inr ⟨rfl, t, ht, hnull, htext⟩

/-! ### What is read -/

theorem readPayload_of_asks {fields : List (String × Tree)} {url : String} (h : Asks fields url) :
    ∃ directive, directive.url = url ∧ readPayload (.object fields) =
      (payloadTimeout (Tree.field? "timeout" fields)).map fun timeout? => (directive, timeout?) := by
  rw [readPayload_eq]
  obtain ⟨url', hu, heq, -⟩ := (payloadUrl_cases fields).resolve_right
    fun hbad => h.url_ne (hbad.2 url h.url_eq)
  obtain rfl := Tree.text.inj (Option.some.inj (h.url_eq.symm.trans heq))
  obtain ⟨headers, hh, -⟩ := (payloadHeaders_cases fields).resolve_right
    fun ⟨_, t, ht, hne, htruthy⟩ => (h.headers t ht).elim (fun ⟨headers, he⟩ => hne headers he) fun hf => by
      rw [htruthy] at hf; cases hf
  obtain ⟨body?, hb, -⟩ := (payloadBody_cases fields).resolve_right
    fun ⟨_, t, ht, hne, htext⟩ => (h.body t ht).elim hne fun ⟨body, he⟩ => htext body he
  refine ⟨⟨url, payloadMethod fields, textHeaders headers, body?⟩, rfl, ?_⟩
  rw [hu, hh, hb]
  cases payloadTimeout (Tree.field? "timeout" fields) <;> rfl

theorem readPayload_of_not_asks {fields : List (String × Tree)} (h : ∀ url, ¬ Asks fields url) :
    ∃ defect, readPayload (.object fields) = .error (.invalidRequest defect) := by
  rw [readPayload_eq]
  rcases payloadUrl_cases fields with ⟨url, hu, heq, hne⟩ | ⟨hu, -⟩
  · rcases payloadHeaders_cases fields with ⟨headers, hh, hkind⟩ | ⟨hh, -⟩
    · rcases payloadBody_cases fields with ⟨body?, hb, htext⟩ | ⟨hb, -⟩
      · exact absurd ⟨heq, hne, hkind, htext⟩ (h url)
      · exact ⟨.body, by rw [hu, hh, hb]; rfl⟩
    · exact ⟨.headers, by rw [hu, hh]; rfl⟩
  · exact ⟨.noUrl, by rw [hu]; rfl⟩

/-! ### Timeouts -/

theorem payloadTimeout_of_not_isTimeout {t? : Option Tree} (h : ¬ IsTimeout t?) (hn : t? ≠ some (.double .nan)) :
    payloadTimeout t? = .error (.invalidRequest .timeout) := by
  unfold payloadTimeout
  split
  next => exact absurd trivial h
  next => exact absurd trivial h
  next n => exact if_pos (Int.not_lt.mp h)
  next x =>
    have hless : Double.isLess .zero x = false := by simpa [IsTimeout] using h
    have hne : x ≠ .nan := fun hx => hn (by rw [hx])
    simp [hless, hne]
  next => rfl

theorem payloadTimeout_of_isTimeout {t? : Option Tree} (h : IsTimeout t?) (he : IsExpressible t?) :
    ∃ n?, payloadTimeout t? = .ok n? ∧ ∀ n ∈ n?, n.natAbs < 1000 * Double.overflowBound := by
  unfold payloadTimeout
  split
  next => exact ⟨none, rfl, nofun⟩
  next => exact ⟨none, rfl, nofun⟩
  next n =>
    refine ⟨some n, if_neg (Int.not_le.mpr h), fun m hm => ?_⟩
    obtain rfl := Option.some.inj hm
    simp only [IsTimeout, IsExpressible] at h he
    omega
  next x =>
    have hless : Double.isLess .zero x = true := h
    have hx : x.IsFinite := he
    obtain ⟨n, htruncate, hn⟩ := hx.exists_truncate
    obtain @⟨negative, mantissa, exponent, -, -⟩ := hx
    refine ⟨some n, ?_, fun m hm => by rwa [← Option.some.inj hm]⟩
    simp [hless, htruncate]
  next t hnull hinteger hdouble =>
    cases t with
    | null => exact absurd rfl hnull
    | integer n => exact absurd rfl (hinteger n)
    | double x => exact absurd rfl (hdouble x)
    | _ => exact False.elim h

theorem readPayload_of_misshapen {payload : Tree} (h : Misshapen payload) :
    ∃ defect, readPayload payload = .error (.invalidRequest defect) := by
  cases payload with
  | object fields =>
    by_cases hasks : ∃ url, Asks fields url
    · obtain ⟨url, hasks⟩ := hasks
      obtain ⟨ht, hn⟩ := h fields url rfl hasks
      obtain ⟨directive, -, hread⟩ := readPayload_of_asks hasks
      exact ⟨.timeout, by rw [hread, payloadTimeout_of_not_isTimeout ht hn]; rfl⟩
    · exact readPayload_of_not_asks fun url hu => hasks ⟨url, hu⟩
  | _ => exact ⟨.notObject, rfl⟩

end SiteReader.Gateway
