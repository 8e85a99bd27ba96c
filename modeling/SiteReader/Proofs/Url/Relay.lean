import SiteReader.Proofs.Text.Mark
import SiteReader.Proofs.Url.Escape
import SiteReader.Proofs.Url.Origin

/-!
# URLs through a relay

A URL that goes through a relay is put between pieces of the relay, which are the same for every URL (`exists_frame`).  So the
URL can be told from the result (`Frame.join_injective`).  Scheme and authority of a text do not change with what follows it
once the authority has ended (`headOf_append_of_last`, `headOf_append_of_eq`); where that is before the first place of the URL,
they are those of the relay, whatever the URL is (`Frame.headOf_join`).
-/

namespace SiteReader.Url

/-! ### The head of a text -/

/-- Scheme and authority of a text, whether or not a URL may have that authority. -/
def headOf (cs : List Char) : List Char × List Char :=
  ((cutScheme [] (cleaned cs)).1, (cutAuthority (cutScheme [] (cleaned cs)).2).1)

theorem cleaned_append {cs : List Char} (h : cleaned cs ≠ []) (tail : List Char) :
    cleaned (cs ++ tail) = cleaned cs ++ tail.filter isKept := by
  unfold cleaned at h ⊢
  have hne : cs.dropWhile (fun c => decide (c.toNat ≤ 32)) ≠ [] := by
    intro hnil
    rw [hnil] at h
    exact h rfl
  rw [List.dropWhile_append, if_neg (by simpa using hne), List.filter_append]
  rfl

/-- The last character of a text stays, unless it is one that URLs ignore. -/
theorem getLast?_cleaned {cs : List Char} {c : Char} (h : cs.getLast? = some c) (hc : 32 < c.toNat) :
    (cleaned cs).getLast? = some c := by
  obtain ⟨front, rfl⟩ := List.getLast?_eq_some_iff.mp h
  have hstays : [c].dropWhile (fun d => decide (d.toNat ≤ 32)) = [c] := List.dropWhile_cons_of_neg (by simpa using hc)
  have hkept : [c].filter (fun d => !(d = '\t' || d = '\r' || d = '\n')) = [c] :=
    filter_isKept (List.forall_mem_singleton.mpr hc)
  unfold cleaned
  rw [List.dropWhile_append, hstays]
  split
  next => rw [hkept]; rfl
  next => rw [List.filter_append, hkept, List.getLast?_concat]

/-- Whatever follows a text with an authority can only make that authority longer. -/
theorem exists_headOf {cs : List Char} (h : (headOf cs).2 ≠ []) : ∃ scheme after, after ≠ [] ∧ after <:+ cleaned cs ∧
    headOf cs = (scheme, after.takeWhile (!endsAuthority ·)) ∧
    ∀ tail, headOf (cs ++ tail) = (scheme, (after ++ tail.filter isKept).takeWhile (!endsAuthority ·)) := by
  obtain ⟨after, hafter, hauthority⟩ := cutAuthority_cases h
  have hne : after ≠ [] := by
    rintro rfl
    exact h hauthority
  have hcut : ∃ front scheme, cleaned cs = front ++ '/' :: '/' :: after ∧
      ∀ rest, cutScheme [] (front ++ '/' :: '/' :: rest) = (scheme, '/' :: '/' :: rest) := by
    rcases cutScheme_eq_or [] (cleaned cs) with hnone | ⟨scheme, rest, hscheme, hcs⟩
    · rw [hnone] at hafter
      exact ⟨[], [], hafter, fun rest => rfl⟩
    · rw [hcs, cutScheme_append hscheme] at hafter
      obtain rfl : rest = '/' :: '/' :: after := hafter
      refine ⟨scheme ++ [':'], scheme.map Char.toLower, by rw [hcs]; simp, fun rest => ?_⟩
      rw [List.append_assoc]
      exact cutScheme_append hscheme [] _
  obtain ⟨front, scheme, hcleaned, hcut⟩ := hcut
  refine ⟨scheme, after, hne, ⟨front ++ ['/', '/'], by rw [hcleaned]; simp⟩, ?_, fun tail => ?_⟩
  · rw [headOf, hcleaned, hcut]
    rfl
  · have hfull : cleaned (cs ++ tail) = front ++ '/' :: '/' :: (after ++ tail.filter isKept) := by
      rw [cleaned_append (by rw [hcleaned]; simp), hcleaned]
      simp
    rw [headOf, hfull, hcut]
    rfl

/-- An authority that has ended before the last character of a text stays as it is, whatever follows the text. -/
theorem headOf_append_of_last {cs : List Char} (h : (headOf cs).2 ≠ []) (hlast : cs.getLast? = some '/') (tail : List Char) :
    headOf (cs ++ tail) = headOf cs := by
  obtain ⟨scheme, after, hne, ⟨front, hfront⟩, hself, hhead⟩ := exists_headOf h
  have hslash : '/' ∈ after := by
    have hcleaned := getLast?_cleaned hlast (by decide)
    rw [← hfront, List.getLast?_append_of_ne_nil _ hne] at hcleaned
    exact List.mem_of_getLast? hcleaned
  have hended : after.dropWhile (!endsAuthority ·) ≠ [] := by
    intro hnil
    exact absurd (List.dropWhile_eq_nil_iff.mp hnil '/' hslash) (by decide)
  rw [hself, hhead, (Text.scan_append hended _).1]

/-- A slash ends an authority. -/
theorem headOf_append_slash {cs : List Char} (h : (headOf cs).2 ≠ []) : headOf (cs ++ ['/']) = headOf cs := by
  obtain ⟨scheme, after, -, -, hself, hhead⟩ := exists_headOf h
  rw [hself, hhead]
  by_cases hended : after.dropWhile (!endsAuthority ·) = []
  · have hall := List.dropWhile_eq_nil_iff.mp hended
    rw [Text.takeWhile_append_of_stop hall (by simp [isKept, endsAuthority]), Text.takeWhile_of_all hall]
  · rw [(Text.scan_append hended _).1]

/-- An authority has ended if a character that could be part of it does not make it longer. -/
theorem headOf_append_of_eq {cs rest : List Char} {c : Char} (h : (headOf cs).2 ≠ []) (hkept : isKept c = true)
    (hc : endsAuthority c = false) (heq : (headOf (cs ++ c :: rest)).2 = (headOf cs).2) (tail : List Char) :
    headOf (cs ++ tail) = headOf cs := by
  obtain ⟨scheme, after, -, -, hself, hhead⟩ := exists_headOf h
  have hended : after.dropWhile (!endsAuthority ·) ≠ [] := by
    intro hnil
    have hall := List.dropWhile_eq_nil_iff.mp hnil
    rw [hself, hhead, List.filter_cons_of_pos hkept, List.takeWhile_append_of_pos hall, Text.takeWhile_of_all hall,
      List.takeWhile_cons_of_pos (by rw [hc]; rfl)] at heq
    exact List.cons_ne_nil _ _ (List.append_right_eq_self.mp heq)
  rw [hself, hhead, (Text.scan_append hended _).1]

/-- Texts with the same head are URLs both or neither, and then they have the same scheme and the same authority. -/
theorem split_congr {a b : List Char} (h : headOf a = headOf b) :
    (∃ fault, split a = .error fault ∧ split b = .error fault) ∨
      ∃ x y, split a = .ok x ∧ split b = .ok y ∧ x.scheme = y.scheme ∧ x.authority = y.authority := by
  obtain ⟨hscheme, hauthority⟩ := Prod.mk.inj h
  unfold split splitWith
  dsimp only
  rw [hauthority]
  split
  next => exact .inl ⟨_, rfl, rfl⟩
  next =>
    split
    next => exact .inl ⟨_, rfl, rfl⟩
    next => exact .inr ⟨_, _, rfl, rfl, hscheme, rfl⟩

/-- What is contacted for a URL: its scheme, its host, and its port if that is valid. -/
def contact (url : Url) : List Char × List Char × Except Fault (Option Nat) :=
  (url.scheme, url.host, url.port)

theorem contact_congr {x y : Url} (hs : x.scheme = y.scheme) (ha : x.authority = y.authority) : x.contact = y.contact := by
  have hhost : x.host = y.host := by rw [host, host, ha]
  have hport : x.port = y.port := by rw [port, port, portText, portText, ha]
  rw [contact, contact, hs, hhost, hport]

theorem map_contact_congr {a b : List Char} (h : headOf a = headOf b) : (split a).map contact = (split b).map contact := by
  rcases split_congr h with ⟨fault, ha, hb⟩ | ⟨x, y, ha, hb, hscheme, hauthority⟩
  · rw [ha, hb]
  · rw [ha, hb]
    exact congrArg Except.ok (contact_congr hscheme hauthority)

/-! ### The pieces of a relay -/

/-- The mark for the place of the URL in a relay. -/
def slot : List Char :=
  ['{', 'u', 'r', 'l', '}']

/-- A relay has an authority, and it has that before each mark for the place of the URL. -/
structure IsRelay (relay : List Char) : Prop where
  authority_ne : (headOf relay).2 ≠ []
  before_slots : ∀ before after, relay = before ++ slot ++ after → (headOf before).2 = (headOf relay).2

theorem IsRelay.ne_nil {relay : List Char} (h : IsRelay relay) : relay ≠ [] := by
  rintro rfl
  exact h.authority_ne rfl

/-- The marks of a relay can be looked for one place after the other. -/
theorem IsRelay.of_forall_take {relay : List Char} (hne : (headOf relay).2 ≠ [])
    (h : ∀ n < relay.length, slot <+: relay.drop n → (headOf (relay.take n)).2 = (headOf relay).2) : IsRelay relay := by
  refine ⟨hne, fun before after hrelay => ?_⟩
  have hlt : before.length < relay.length := by
    rw [hrelay]
    simp [slot]
  have hfound := h before.length hlt
  rw [hrelay, List.append_assoc, List.drop_left, List.take_left, ← List.append_assoc, ← hrelay] at hfound
  exact hfound (List.prefix_append slot after)

/-- The pieces of a relay that a URL is put between: those between its marks or, if it has none, all of it up to a slash, and
nothing after that. -/
inductive Frame (relay : List Char) : List (List Char) → Prop
  | slots {pieces : List (List Char)} (hmark : slot <:+: relay) (hpieces : ∀ piece ∈ pieces, ¬ slot <:+: piece)
      (hjoin : Text.join slot pieces = relay) : Frame relay pieces
  | last (hmark : ¬ slot <:+: relay) (hlast : relay.getLast? = some '/') : Frame relay [relay, []]
  | segment (hmark : ¬ slot <:+: relay) (hlast : relay.getLast? ≠ some '/') : Frame relay [relay ++ ['/'], []]

theorem exists_frame {relay : List Char} (hne : Text.trim relay ≠ []) : ∃ pieces, Frame (Text.trim relay) pieces ∧
    ∀ url, throughRelayChars url relay = Text.join (escape url) pieces := by
  have hslot : slot ≠ [] := List.cons_ne_nil _ _
  have hempty : (Text.trim relay).isEmpty = false := by simpa using hne
  by_cases hmark : slot <:+: Text.trim relay
  · refine ⟨_, .slots hmark (Text.not_isInfix_of_mem_splitOn hslot _) (Text.join_splitOn hslot _), fun url => ?_⟩
    have hhas : Text.hasMark ['{', 'u', 'r', 'l', '}'] (Text.trim relay) = true := Text.hasMark_iff.mpr hmark
    simp only [throughRelayChars, hempty, hhas, Bool.false_eq_true, ↓reduceIte]
    rfl
  · have hhas : Text.hasMark ['{', 'u', 'r', 'l', '}'] (Text.trim relay) = false := by
      rw [← Bool.not_eq_true, Text.hasMark_iff]
      exact hmark
    by_cases hlast : (Text.trim relay).getLast? = some '/'
    · refine ⟨_, .last hmark hlast, fun url => ?_⟩
      simp [throughRelayChars, hempty, hhas, hlast, Text.join]
    · refine ⟨_, .segment hmark hlast, fun url => ?_⟩
      simp [throughRelayChars, hempty, hhas, hlast, Text.join]

namespace Frame

variable {relay : List Char} {pieces : List (List Char)}

theorem exists_pieces (h : Frame relay pieces) : ∃ first next others, pieces = first :: next :: others := by
  cases h with
  | slots hmark hpieces hjoin =>
    have hjoined : slot <:+: Text.join slot pieces := by rwa [hjoin]
    exact Text.exists_pieces_of_isInfix (List.cons_ne_nil _ _) hjoined hpieces
  | last => exact ⟨_, _, _, rfl⟩
  | segment => exact ⟨_, _, _, rfl⟩

theorem join_injective {text other : List Char} (h : Frame relay pieces)
    (heq : Text.join text pieces = Text.join other pieces) : text = other := by
  obtain ⟨first, next, others, rfl⟩ := h.exists_pieces
  exact Text.join_injective heq

/-- The authority of a relay has ended where the first piece ends. -/
theorem headOf_first {first : List Char} {others : List (List Char)} (h : Frame relay (first :: others)) (hrelay : IsRelay relay)
    (hne : others ≠ []) (tail : List Char) : headOf (first ++ tail) = headOf relay := by
  have hauthority := hrelay.authority_ne
  cases h with
  | slots hmark hpieces hjoin =>
    rw [Text.join_cons first hne] at hjoin
    have hbefore := hrelay.before_slots first _ hjoin.symm
    have hfirst : (headOf first).2 ≠ [] := hbefore ▸ hauthority
    have hslot : relay = first ++ '{' :: (['u', 'r', 'l', '}'] ++ Text.join slot others) := by
      rw [← hjoin]
      simp [slot]
    have hended := @headOf_append_of_eq first _ '{' hfirst rfl rfl (by rw [← hslot, hbefore])
    rw [hended, hslot, hended]
  | last hmark hlast => exact headOf_append_of_last hauthority hlast tail
  | segment hmark hlast =>
    have hslash := headOf_append_slash hauthority
    rw [headOf_append_of_last (by rwa [hslash]) List.getLast?_concat, hslash]

theorem headOf_join (h : Frame relay pieces) (hrelay : IsRelay relay) (text : List Char) :
    headOf (Text.join text pieces) = headOf relay := by
  obtain ⟨first, next, others, rfl⟩ := h.exists_pieces
  rw [Text.join_cons first (List.cons_ne_nil _ _), List.append_assoc]
  exact h.headOf_first hrelay (List.cons_ne_nil _ _) _

end Frame

end SiteReader.Url
