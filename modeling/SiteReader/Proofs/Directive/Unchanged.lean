import SiteReader.Proofs.Directive.Relaxed

/-!
# JSON text stays as it is

The rewriting of relaxed literals copies what the reader of JSON goes through: strings as they are
(`copiesString_of_readUnits`), words and numbers without taking them for keys (`PassesToken.copies`), and the marks between
them (`readersCopy`, by induction on the fuel of the reader).  No bare key is ever found: a comma of an array is followed by
a value, and what comes after a value is no colon.  A text that is read as JSON is therefore rewritten to itself
(`normalize_json_text`).
-/

namespace SiteReader.Relaxed

open Json (Follows Space readField readFields readItems readKey readNumber readString readUnits readUnsigned readValue
  readWord skipSpace)

/-! ### Strings -/

theorem raw_of_hexValue? {c : Char} {n : Nat} (h : Text.hexValue? c = some n) : c ≠ '\\' ∧ c ≠ '\'' ∧ c ≠ '"' := by
  refine ⟨?_, ?_, ?_⟩ <;> rintro rfl <;> cases h

theorem raw_of_hexUnit? {a b c d : Char} {n : Nat} (h : Json.hexUnit? a b c d = some n) :
    ∀ x ∈ [a, b, c, d], x ≠ '\\' ∧ x ≠ '\'' ∧ x ≠ '"' := by
  simp only [Json.hexUnit?, Option.bind_eq_bind, Option.bind_eq_some_iff] at h
  obtain ⟨_, ha, _, hb, _, hc, _, hd, -⟩ := h
  simp [raw_of_hexValue? ha, raw_of_hexValue? hb, raw_of_hexValue? hc, raw_of_hexValue? hd]

/-- The rest of a string in double quotes is copied up to its closing quote, which `rest` comes after. -/
def CopiesString (cs rest : List Char) : Prop :=
  ∃ body, cs = body ++ '"' :: rest ∧ string '"' cs = (body, rest)

theorem CopiesString.append {cs rest : List Char} (h : CopiesString cs rest) {text : List Char}
    (ht : string '"' (text ++ cs) = (text ++ (string '"' cs).1, (string '"' cs).2)) : CopiesString (text ++ cs) rest := by
  obtain ⟨body, rfl, hbody⟩ := h
  exact ⟨text ++ body, (List.append_assoc ..).symm, by rw [ht, hbody]⟩

theorem copiesString_of_readUnits {cs rest : List Char} {units : List Nat} (h : readUnits cs = some (units, rest)) :
    CopiesString cs rest := by
  fun_induction readUnits cs generalizing units with
  | case1 => cases h
  | case2 r =>
    cases h
    exact ⟨[], rfl, string_close (by decide) rest⟩
  | case3 a b c d r ih =>
    obtain ⟨unit, hunit, h⟩ := Option.bind_eq_some_iff.mp h
    obtain ⟨⟨others, _⟩, hr, h⟩ := Option.bind_eq_some_iff.mp h
    cases h
    -- for the rewriting the escape ends after its letter, and the digits are characters like others
    have hdigits : CopiesString ([a, b, c, d] ++ r) rest :=
      (ih hr).append (string_append_of_raw (raw_of_hexUnit? hunit) (.inr rfl) r)
    exact @CopiesString.append _ _ hdigits ['\\', 'u'] (string_escape '"' 'u' _)
  | case4 e r hne ih =>
    obtain ⟨c, -, h⟩ := Option.bind_eq_some_iff.mp h
    obtain ⟨⟨others, _⟩, hr, h⟩ := Option.bind_eq_some_iff.mp h
    cases h
    exact @CopiesString.append _ _ (ih hr) ['\\', e] (string_escape '"' e r)
  | case5 => cases h
  | case6 c r hq _ _ _ hc =>
    rename_i ih
    obtain ⟨⟨others, _⟩, hr, h⟩ := Option.bind_eq_some_iff.mp h
    cases h
    have hs : c ≠ '\\' := fun hs => hc (by simp [hs])
    exact @CopiesString.append _ _ (ih hr) [c] (string_raw hs hq r)

/-! ### Words and numbers -/

/-- Everything before the rest of a text is of no meaning for the rewriting. -/
def PassesInert (cs rest : List Char) : Prop :=
  ∃ text, Inert text ∧ cs = text ++ rest

theorem PassesInert.refl (cs : List Char) : PassesInert cs cs :=
  ⟨[], List.forall_mem_nil _, rfl⟩

theorem PassesInert.trans {a b c : List Char} (hab : PassesInert a b) (hbc : PassesInert b c) : PassesInert a c := by
  obtain ⟨first, hfirst, rfl⟩ := hab
  obtain ⟨second, hsecond, rfl⟩ := hbc
  exact ⟨first ++ second, hfirst.append hsecond, (List.append_assoc ..).symm⟩

theorem passesInert_digits {cs ds rest : List Char} (h : Json.digits cs = (ds, rest)) : PassesInert cs rest := by
  obtain ⟨rfl, rfl⟩ := Prod.mk.inj h
  exact ⟨_, inert_of_isAsciiDigit fun _ hc => List.mem_takeWhile_imp hc, List.takeWhile_append_dropWhile.symm⟩

/-- A word or a number comes before the rest of a text. -/
def PassesToken (cs rest : List Char) : Prop :=
  ∃ text, Inert text ∧ text ≠ [] ∧ cs = text ++ rest

theorem PassesInert.token {c : Char} {cs rest : List Char} (hc : IsPlain c ∧ c ≠ ':') (h : PassesInert cs rest) :
    PassesToken (c :: cs) rest := by
  obtain ⟨text, htext, rfl⟩ := h
  exact ⟨c :: text, List.forall_mem_cons.mpr ⟨hc, htext⟩, List.cons_ne_nil _ _, rfl⟩

theorem PassesToken.passesInert {cs rest : List Char} (h : PassesToken cs rest) : PassesInert cs rest :=
  h.imp fun _ h => ⟨h.1, h.2.2⟩

theorem PassesInert.cons {c : Char} {cs rest : List Char} (hc : IsPlain c ∧ c ≠ ':') (h : PassesInert cs rest) :
    PassesInert (c :: cs) rest :=
  (h.token hc).passesInert

theorem PassesToken.trans {a b c : List Char} (hab : PassesToken a b) (hbc : PassesInert b c) : PassesToken a c := by
  obtain ⟨first, hfirst, hne, rfl⟩ := hab
  obtain ⟨second, hsecond, rfl⟩ := hbc
  exact ⟨first ++ second, hfirst.append hsecond, List.append_ne_nil_of_left_ne_nil hne _, (List.append_assoc ..).symm⟩

theorem passesToken_wholePart? {cs ds rest : List Char} (h : Json.wholePart? cs = some (ds, rest)) :
    PassesToken cs rest := by
  unfold Json.wholePart? at h
  split at h
  next r =>
    obtain ⟨-, rfl⟩ := Prod.mk.inj (Option.some.inj h)
    exact PassesInert.token (by decide) (.refl r)
  next =>
    split at h
    next => cases h
    next hne =>
      have hdigits : Json.digits cs = (ds, rest) := Option.some.inj h
      obtain ⟨rfl, rfl⟩ := Prod.mk.inj hdigits
      exact ⟨_, inert_of_isAsciiDigit fun _ hc => List.mem_takeWhile_imp hc, fun hnil => hne _ (Prod.ext hnil rfl),
        List.takeWhile_append_dropWhile.symm⟩

theorem passesInert_fraction {cs rest : List Char} {places? : Option (List Char)}
    (h : Json.fraction cs = (places?, rest)) : PassesInert cs rest := by
  unfold Json.fraction at h
  split at h
  next r =>
    split at h
    next =>
      obtain ⟨-, rfl⟩ := Prod.mk.inj h
      exact .refl _
    next hd =>
      obtain ⟨-, rfl⟩ := Prod.mk.inj h
      exact .cons (by decide) (passesInert_digits hd)
  next =>
    obtain ⟨-, rfl⟩ := Prod.mk.inj h
    exact .refl _

theorem passesInert_sign (cs : List Char) : PassesInert cs (Numeral.sign cs).2 := by
  unfold Numeral.sign
  split
  next => exact .cons (by decide) (.refl _)
  next => exact .cons (by decide) (.refl _)
  next => exact .refl _

theorem passesInert_exponent {cs rest : List Char} {power? : Option Int} (h : Json.exponent cs = (power?, rest)) :
    PassesInert cs rest := by
  unfold Json.exponent at h
  split at h
  next e r =>
    split at h
    next he =>
      have hletter : IsPlain e ∧ e ≠ ':' := by
        rcases (by simpa using he : e = 'e' ∨ e = 'E') with rfl | rfl <;> decide
      dsimp only at h
      split at h
      next =>
        obtain ⟨-, rfl⟩ := Prod.mk.inj h
        exact .refl _
      next hd =>
        obtain ⟨-, rfl⟩ := Prod.mk.inj h
        exact .cons hletter ((passesInert_sign r).trans (passesInert_digits hd))
    next =>
      obtain ⟨-, rfl⟩ := Prod.mk.inj h
      exact .refl _
  next =>
    obtain ⟨-, rfl⟩ := Prod.mk.inj h
    exact .refl _

theorem passesToken_readUnsigned {negative : Bool} {cs rest : List Char} {t : Tree}
    (h : readUnsigned negative cs = some (t, rest)) : PassesToken cs rest := by
  obtain ⟨⟨whole, afterWhole⟩, hwhole, h⟩ := Option.bind_eq_some_iff.mp h
  refine (passesToken_wholePart? hwhole).trans ?_
  dsimp only at h
  split at h
  next hfraction =>
    refine (passesInert_fraction hfraction).trans ?_
    split at h
    next hexponent =>
      obtain ⟨n, -, h⟩ := Option.bind_eq_some_iff.mp h
      cases h
      exact passesInert_exponent hexponent
    next hexponent =>
      cases h
      exact passesInert_exponent hexponent
  next hfraction =>
    cases h
    exact (passesInert_fraction hfraction).trans (passesInert_exponent rfl)

theorem passesToken_readNumber {cs rest : List Char} {t : Tree} (h : readNumber cs = some (t, rest)) :
    PassesToken cs rest := by
  unfold readNumber at h
  split at h
  next => exact (passesToken_readUnsigned h).passesInert.token (by decide)
  next => exact passesToken_readUnsigned h

theorem inert_words : ∀ entry ∈ Json.words, Inert entry.1 ∧ entry.1 ≠ [] := by
  decide

theorem passesToken_readWord {cs rest : List Char} {t : Tree} (h : readWord cs = some (t, rest)) :
    PassesToken cs rest := by
  obtain ⟨⟨word, value⟩, hmem, h⟩ := List.exists_of_findSome?_eq_some h
  obtain ⟨rest, hrest, h⟩ := Option.map_eq_some_iff.mp h
  cases h
  obtain ⟨hword, hne⟩ := inert_words _ hmem
  exact ⟨word, hword, hne, Text.append_of_dropHead? hrest⟩

/-! ### Values -/

/-- The rewriting copies what comes before the rest of a text; it goes from one state to another. -/
def Copies (e : Bool) (cs : List Char) (e' : Bool) (rest : List Char) : Prop :=
  ∃ text, cs = text ++ rest ∧ strictText e cs = text ++ strictText e' rest

theorem Copies.trans {d e f : Bool} {a b c : List Char} (hab : Copies d a e b) (hbc : Copies e b f c) : Copies d a f c := by
  obtain ⟨first, rfl, hfirst⟩ := hab
  obtain ⟨second, rfl, hsecond⟩ := hbc
  exact ⟨first ++ second, (List.append_assoc ..).symm, by rw [hfirst, hsecond, List.append_assoc]⟩

theorem space_takeWhile (cs : List Char) : Space (cs.takeWhile Json.isSpace) :=
  fun _ hc => List.mem_takeWhile_imp hc

theorem takeWhile_append_skipSpace (cs : List Char) : cs.takeWhile Json.isSpace ++ skipSpace cs = cs :=
  List.takeWhile_append_dropWhile

theorem copies_skipSpace (e : Bool) (cs : List Char) : Copies e cs e (skipSpace cs) := by
  refine ⟨cs.takeWhile Json.isSpace, (takeWhile_append_skipSpace cs).symm, ?_⟩
  rw [← strictText_space (space_takeWhile cs), takeWhile_append_skipSpace]

theorem copies_mark {c : Char} (hc : c = '{' ∨ c = ',') (e : Bool) (r : List Char) : Copies e (c :: r) true r :=
  ⟨[c], rfl, strictText_mark hc e r⟩

theorem copies_bracket {c : Char} (hc : IsPlain c) (hk : isKeyStart c = false) (e : Bool) (r : List Char) :
    Copies e (c :: r) false r :=
  ⟨[c], rfl, strictText_bracket hc hk e r⟩

theorem copies_close {c : Char} {cs r : List Char} (h : skipSpace cs = c :: r) (hc : IsPlain c)
    (hk : isKeyStart c = false) (e : Bool) : Copies e cs false r := by
  have hgap := copies_skipSpace e cs
  rw [h] at hgap
  exact hgap.trans (copies_bracket hc hk e r)

theorem copies_comma {cs r : List Char} (h : skipSpace cs = ',' :: r) (e : Bool) : Copies e cs true (skipSpace r) := by
  have hgap := copies_skipSpace e cs
  rw [h] at hgap
  exact hgap.trans ((copies_mark (.inr rfl) e r).trans (copies_skipSpace true r))

theorem copies_string {r rest : List Char} {s : List Char} (h : readString r = some (s, rest)) (e : Bool) :
    Copies e ('"' :: r) false rest := by
  obtain ⟨⟨units, _⟩, hunits, h⟩ := Option.map_eq_some_iff.mp h
  cases h
  obtain ⟨body, rfl, hbody⟩ := copiesString_of_readUnits hunits
  refine ⟨'"' :: (body ++ ['"']), by simp, ?_⟩
  rw [strictText_quote (.inr rfl) hbody]
  simp

theorem PassesToken.copies {cs rest : List Char} (h : PassesToken cs rest) (hr : Follows rest) (e : Bool) :
    Copies e cs false rest := by
  obtain ⟨text, htext, hne, rfl⟩ := h
  exact ⟨text, rfl, strictText_inert htext hne e hr⟩

theorem follows_of_skipSpace {c : Char} {rest r : List Char} (h : skipSpace rest = c :: r)
    (hc : c = ',' ∨ c = ']' ∨ c = '}') : Follows rest := by
  rw [← takeWhile_append_skipSpace rest, h]
  exact .of_mark (space_takeWhile rest) hc

theorem copies_readKey {cs rest : List Char} {key : String} (h : readKey cs = some (key, rest)) (e : Bool) :
    Copies e cs false rest := by
  unfold readKey at h
  split at h
  next r =>
    obtain ⟨⟨name, after⟩, hstring, h⟩ := Option.bind_eq_some_iff.mp h
    dsimp only at h
    split at h
    next colon =>
      cases h
      exact (copies_string hstring e).trans
        ((copies_close colon (by decide) (by decide) false).trans (copies_skipSpace false _))
    next => cases h
  next => cases h

/-- What the three readers go through is copied; a value has to be followed by a mark or the end. -/
structure ReadersCopy (fuel : Nat) : Prop where
  value : ∀ {cs rest : List Char} {t : Tree}, readValue fuel cs = some (t, rest) → Follows rest →
    ∀ e : Bool, Copies e cs false rest
  items : ∀ {cs rest : List Char} {ts : List Tree}, readItems fuel cs = some (ts, rest) →
    ∀ e : Bool, Copies e cs false rest
  fields : ∀ {cs rest : List Char} {entries : List (String × Tree)}, readFields fuel cs = some (entries, rest) →
    ∀ e : Bool, Copies e cs false rest

theorem ReadersCopy.value_succ {fuel : Nat} (ih : ReadersCopy fuel) {cs rest : List Char} {t : Tree}
    (h : readValue (fuel + 1) cs = some (t, rest)) (hr : Follows rest) (e : Bool) : Copies e cs false rest := by
  unfold readValue at h
  split at h
  next r =>
    obtain ⟨⟨s, _⟩, hstring, h⟩ := Option.map_eq_some_iff.mp h
    cases h
    exact copies_string hstring e
  next r =>
    refine (copies_bracket (by decide) (by decide) e r).trans ?_
    split at h
    next hclose =>
      cases h
      exact copies_close hclose (by decide) (by decide) false
    next =>
      obtain ⟨⟨ts, _⟩, hitems, h⟩ := Option.map_eq_some_iff.mp h
      cases h
      exact (copies_skipSpace false r).trans (ih.items hitems false)
  next r =>
    refine (copies_mark (.inl rfl) e r).trans ?_
    split at h
    next hclose =>
      cases h
      exact copies_close hclose (by decide) (by decide) true
    next =>
      obtain ⟨⟨entries, _⟩, hfields, h⟩ := Option.map_eq_some_iff.mp h
      cases h
      exact (copies_skipSpace true r).trans (ih.fields hfields true)
  next =>
    -- a word or a number may stand where a key could, but no colon follows it
    rcases Option.or_eq_some_iff.mp h with hword | ⟨-, hnumber⟩
    · exact (passesToken_readWord hword).copies hr e
    · exact (passesToken_readNumber hnumber).copies hr e

theorem ReadersCopy.items_succ {fuel : Nat} (ih : ReadersCopy fuel) {cs rest : List Char} {ts : List Tree}
    (h : readItems (fuel + 1) cs = some (ts, rest)) (e : Bool) : Copies e cs false rest := by
  rw [Json.readItems_succ] at h
  obtain ⟨⟨t, after⟩, hvalue, h⟩ := Option.bind_eq_some_iff.mp h
  dsimp only at h
  split at h
  next hclose =>
    cases h
    exact (ih.value hvalue (follows_of_skipSpace hclose (by simp)) e).trans
      (copies_close hclose (by decide) (by decide) false)
  next hcomma =>
    obtain ⟨⟨others, _⟩, hitems, h⟩ := Option.bind_eq_some_iff.mp h
    cases h
    exact (ih.value hvalue (follows_of_skipSpace hcomma (by simp)) e).trans
      ((copies_comma hcomma false).trans (ih.items hitems true))
  next => cases h

theorem ReadersCopy.field {fuel : Nat} (ih : ReadersCopy fuel) {cs rest : List Char} {entry : String × Tree}
    (h : readField fuel cs = some (entry, rest)) (hr : Follows rest) (e : Bool) : Copies e cs false rest := by
  obtain ⟨⟨key, after⟩, hkey, h⟩ := Option.bind_eq_some_iff.mp h
  obtain ⟨⟨t, _⟩, hvalue, h⟩ := Option.bind_eq_some_iff.mp h
  cases h
  exact (copies_readKey hkey e).trans (ih.value hvalue hr false)

theorem ReadersCopy.fields_succ {fuel : Nat} (ih : ReadersCopy fuel) {cs rest : List Char}
    {entries : List (String × Tree)} (h : readFields (fuel + 1) cs = some (entries, rest)) (e : Bool) :
    Copies e cs false rest := by
  rw [Json.readFields_succ] at h
  obtain ⟨⟨entry, after⟩, hfield, h⟩ := Option.bind_eq_some_iff.mp h
  dsimp only at h
  split at h
  next hclose =>
    cases h
    exact (ih.field hfield (follows_of_skipSpace hclose (by simp)) e).trans
      (copies_close hclose (by decide) (by decide) false)
  next hcomma =>
    obtain ⟨⟨others, _⟩, hfields, h⟩ := Option.bind_eq_some_iff.mp h
    cases h
    exact (ih.field hfield (follows_of_skipSpace hcomma (by simp)) e).trans
      ((copies_comma hcomma false).trans (ih.fields hfields true))
  next => cases h

theorem readersCopy (fuel : Nat) : ReadersCopy fuel := by
  induction fuel with
  | zero => exact ⟨nofun, nofun, nofun⟩
  | succ fuel ih => exact ⟨ih.value_succ, ih.items_succ, ih.fields_succ⟩

/-! ### Whole texts -/

theorem strict_of_read? {cs : List Char} {t : Tree} (h : Json.read? cs = some t) : strict cs = cs := by
  unfold Json.read? at h
  split at h
  next value rest hvalue =>
    split at h
    next hrest =>
      have hspace : skipSpace rest = [] := List.isEmpty_iff.mp hrest
      have hfollows : Follows rest := by
        rw [← takeWhile_append_skipSpace rest, hspace, List.append_nil]
        exact (space_takeWhile rest).follows
      have hcopies : Copies false cs false [] := by
        rw [← hspace]
        exact (copies_skipSpace false cs).trans
          (((readersCopy _).value hvalue hfollows false).trans (copies_skipSpace false rest))
      obtain ⟨text, htext, hstrict⟩ := hcopies
      rw [List.append_nil] at htext
      rw [strictText_nil, List.append_nil, ← htext] at hstrict
      exact hstrict
    next => cases h
  next => cases h

/-- A text that is JSON is rewritten to itself. -/
theorem normalize_json_text {s : String} {t : Tree} (h : Json.parse? s = some t) : normalize s = s := by
  rw [normalize, strict_of_read? h, String.ofList_toList]

theorem normalize_json_text_nested :
    normalize " \x7b\"a:b\" : [-12, NaN, \"\\\"\x7bc:1,d:'\"],\n\"e\":\x7b\x7d , \"e\":null\x7d" =
      " \x7b\"a:b\" : [-12, NaN, \"\\\"\x7bc:1,d:'\"],\n\"e\":\x7b\x7d , \"e\":null\x7d" :=
  normalize_json_text (Option.eq_some_of_isSome (by decide +kernel))

end SiteReader.Relaxed
