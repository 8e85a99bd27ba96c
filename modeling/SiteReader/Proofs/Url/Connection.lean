import SiteReader.Proofs.Text.Case
import SiteReader.Proofs.Url.Split
import SiteReader.Url.Host

/-!
# The host that is connected to

The transport reads URLs by rules of its own: the authority ends at a backslash too (`connectionAuthority`), and the host is
what it has after its last `@`, between brackets or without a port (`connectionHost`).  As far as the authority goes for the
transport, the two readings agree (`connectionAuthority_eq`, `connectionHost_eq`).
-/

namespace SiteReader.Url

/-! ### The reading of the transport -/

/-- Whether a character ends the authority for the transport. -/
def endsConnection (c : Char) : Bool :=
  c = '/' || c = '\\' || c = '?' || c = '#'

/-- The text between `://` and the end of the authority. -/
def connectionAuthority (cs : List Char) : List Char :=
  match Text.cut? "://".toList cs with
  | some (_, after) => after.takeWhile (!endsConnection ·)
  | none => []

/-- The text without a colon and digits at its end. -/
def withoutPort (cs : List Char) : List Char :=
  match Text.cutAtLast? ':' cs with
  | some (host, port) => if port.all Text.isAsciiDigit then host else cs
  | none => cs

/-- The host in an authority. -/
def connectionHost (authority : List Char) : List Char :=
  match Text.afterLast '@' authority with
  | '[' :: rest => (Text.cutAtFirst ']' rest).1
  | hostPort => withoutPort hostPort

/-! ### Authorities -/

theorem cutScheme_cases {cs : List Char} (hne : (cutScheme [] cs).1 ≠ []) :
    ∃ front, cs = front ++ ':' :: (cutScheme [] cs).2 ∧ ∀ c ∈ front, isSchemeChar c = true := by
  rcases cutScheme_eq_or [] cs with hnone | ⟨front, after, hfront, rfl⟩
  · rw [hnone] at hne
    exact absurd rfl hne
  · rw [cutScheme_append hfront]
    exact ⟨front, rfl, hfront.all⟩

theorem cutAuthority_cases {cs : List Char} (hne : (cutAuthority cs).1 ≠ []) :
    ∃ after, cs = '/' :: '/' :: after ∧ (cutAuthority cs).1 = after.takeWhile (!endsAuthority ·) := by
  unfold cutAuthority at hne ⊢
  split at hne
  next after => exact ⟨after, rfl, rfl⟩
  next => exact absurd rfl hne

/-- What was split into a scheme and an authority had both, with brackets that fit. -/
theorem split_cases {cs : List Char} {url : Url} (h : split cs = .ok url) (hs : url.scheme ≠ [])
    (ha : url.authority ≠ []) :
    bracketsFit url.authority = true ∧ ∃ scheme after, cleaned cs = scheme ++ "://".toList ++ after ∧
      (∀ c ∈ scheme, isSchemeChar c = true) ∧ url.authority = after.takeWhile (!endsAuthority ·) := by
  obtain ⟨hscheme, hauthority, hfit⟩ := parts_of_split h
  rw [hscheme] at hs
  rw [hauthority] at ha
  obtain ⟨front, hfront, hall⟩ := cutScheme_cases hs
  obtain ⟨after, hrest, hafter⟩ := cutAuthority_cases ha
  rw [hrest] at hfront
  exact ⟨hfit, front, after, by simpa using hfront, hall, hauthority.trans hafter⟩

theorem cut?_append {d : Char} {before : List Char} (h : d ∉ before) (mark after : List Char) :
    Text.cut? (d :: mark) (before ++ (d :: mark) ++ after) = some (before, after) := by
  induction before with
  | nil => simp [Text.cut?]
  | cons c rest ih =>
    rw [List.mem_cons, not_or] at h
    have hprefix : (d :: mark).isPrefixOf (c :: (rest ++ (d :: mark) ++ after)) = false := by
      have hb : (d == c) = false := beq_eq_false_iff_ne.mpr h.1
      simp [List.isPrefixOf, hb]
    rw [List.cons_append, List.cons_append, Text.cut?, hprefix, if_neg Bool.false_ne_true, ih h.2]
    rfl

theorem takeWhile_endsConnection (cs : List Char) :
    cs.takeWhile (!endsConnection ·) = (cs.takeWhile (!endsAuthority ·)).takeWhile (· != '\\') := by
  induction cs with
  | nil => rfl
  | cons c rest ih =>
    have hends : endsConnection c = (endsAuthority c || decide (c = '\\')) := by
      simp only [endsConnection, endsAuthority]
      ac_rfl
    rw [List.takeWhile_cons, List.takeWhile_cons, hends]
    by_cases ha : endsAuthority c = true
    · simp [ha]
    · by_cases hb : c = '\\'
      · subst hb
        simp [show endsAuthority '\\' = false by decide]
      · simp [ha, hb, ih]

/-- The transport reads as much of the authority as stands before a backslash. -/
theorem connectionAuthority_eq {scheme after : List Char} (h : ∀ c ∈ scheme, isSchemeChar c = true) :
    connectionAuthority (scheme ++ "://".toList ++ after) =
      (after.takeWhile (!endsAuthority ·)).takeWhile (· != '\\') := by
  have hcolon : ':' ∉ scheme := fun hc => absurd (h ':' hc) (by decide)
  have hcut : Text.cut? "://".toList (scheme ++ "://".toList ++ after) = some (scheme, after) :=
    cut?_append hcolon ['/', '/'] after
  simp only [connectionAuthority, hcut]
  exact takeWhile_endsConnection after

/-! ### Hosts -/

theorem mem_of_mem_afterLast {mark : Char} {cs : List Char} {c : Char} (h : c ∈ Text.afterLast mark cs) : c ∈ cs := by
  by_cases hm : mark ∈ cs
  · obtain ⟨before, after, rfl, hafter⟩ := Text.exists_last hm
    rw [Text.afterLast_append before hafter] at h
    exact List.mem_append_right _ (List.mem_cons_of_mem _ h)
  · rwa [Text.afterLast_of_not_mem hm] at h

theorem mem_of_mem_hostAndRest {cs : List Char} {c : Char} (h : c ∈ (hostAndRest cs).1) : c ∈ cs := by
  unfold hostAndRest at h
  split at h
  next => exact (Text.cutAtFirst_subset '[' cs).2 ((Text.cutAtFirst_subset ']' _).1 h)
  next => exact (Text.cutAtFirst_subset ':' cs).1 h

/-- A bracket is the first character after the last `@` if there is one at all. -/
theorem bracket_head {authority : List Char} (h : bracketsFit authority = true) (hb : '[' ∈ hostPort authority) :
    ∃ rest, hostPort authority = '[' :: rest := by
  have hin : authority.contains '[' = true := by simpa using mem_of_mem_afterLast hb
  have hcontains : (hostPort authority).contains '[' = true := by simpa using hb
  obtain ⟨before, rest, hsplit, hbefore⟩ := List.eq_append_cons_of_mem hb
  unfold bracketsFit at h
  rw [hin] at h
  split at h
  next heq _ => cases heq
  next =>
    simp only [hcontains, ↓reduceIte, Bool.and_eq_true] at h
    have hempty : before.isEmpty = true := by
      have hfirst := h.1.1
      rwa [hsplit, Text.cutAtFirst_append hbefore] at hfirst
    exact ⟨rest, by rw [hsplit, List.isEmpty_iff.mp hempty]; rfl⟩
  next => cases h

theorem all_digits_of_port {url : Url} {port : Option Nat} (h : url.port = .ok port) :
    ∀ c ∈ url.portText, Text.isAsciiDigit c = true := by
  unfold Url.port at h
  simp only at h
  split at h
  next hempty =>
    rw [List.isEmpty_iff.mp hempty]
    simp
  next =>
    split at h
    next hall => exact List.all_eq_true.mp hall
    next => cases h

theorem withoutPort_append {host digits : List Char} (hd : ∀ c ∈ digits, Text.isAsciiDigit c = true) :
    withoutPort (host ++ ':' :: digits) = host := by
  have hcolon : ':' ∉ digits := fun hc => absurd (hd ':' hc) (by decide)
  simp only [withoutPort, Text.cutAtLast?_append host hcolon]
  exact if_pos (List.all_eq_true.mpr hd)

/-- Of an authority with brackets that fit and a valid port, the transport reads the host that the URL has, whatever the case
of its letters. -/
theorem connectionHost_eq {url : Url} (hb : bracketsFit url.authority = true) {port : Option Nat}
    (hp : url.port = .ok port) : connectionHost url.authority = (hostAndRest (hostPort url.authority)).1 := by
  have hdigits := all_digits_of_port hp
  unfold portText at hdigits
  -- a bracket can only stand first, so that both readings look for it at the same place
  by_cases hbracket : '[' ∈ hostPort url.authority
  · obtain ⟨rest, hrest⟩ := bracket_head hb hbracket
    have hopen : Text.cutAtFirst '[' ('[' :: rest) = ([], rest) := @Text.cutAtFirst_append '[' [] List.not_mem_nil rest
    have hlast : Text.afterLast '@' url.authority = '[' :: rest := hrest
    rw [connectionHost, hlast, hrest, hostAndRest, hopen]
    simp
  · have hmatch : connectionHost url.authority = withoutPort (hostPort url.authority) := by
      unfold connectionHost
      split
      next rest heq => exact absurd (show '[' ∈ hostPort url.authority by rw [hostPort, heq]; simp) hbracket
      next => rfl
    rw [hmatch]
    generalize hostPort url.authority = text at hdigits hbracket
    by_cases hcolon : ':' ∈ text
    · obtain ⟨host, digits, rfl, hhost⟩ := List.eq_append_cons_of_mem hcolon
      have hplain := hostAndRest_plain hbracket hhost (by simp)
      have hopen : Text.cutAtFirst ':' (':' :: digits) = ([], digits) :=
        @Text.cutAtFirst_append ':' [] List.not_mem_nil digits
      rw [hplain, hopen] at hdigits
      rw [hplain, withoutPort_append hdigits]
    · have hplain : hostAndRest (text ++ []) = (text, []) :=
        hostAndRest_plain (by simpa using hbracket) hcolon (by simp)
      rw [List.append_nil] at hplain
      rw [hplain, withoutPort, Text.cutAtLast?_of_not_mem hcolon]

end SiteReader.Url
