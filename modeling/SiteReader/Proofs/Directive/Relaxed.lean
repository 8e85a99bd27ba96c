import SiteReader.Proofs.Json.Reader

/-!
# Rewriting relaxed literals

The rewriting goes through a literal from token to token, knowing only whether a key may come next (`strictText`).  It
copies strings without looking for keys in them (`string_append_of_pieces`), passes over words and numbers
(`strictText_inert`) and finds the bare keys (`bareKey?_append`).  By induction on the grammar every spelling of a value is
rewritten to JSON text of the same value (`exists_rewrites`).
-/

namespace SiteReader.Relaxed

open Json (BareKey Dialect DocumentText Escape Follows KeyText Number Part Piece Pieces Space Spelling StringText joinUnits)

/-! ### Steps of the rewriting -/

theorem string_length_le (quote : Char) (cs : List Char) : (string quote cs).2.length ≤ cs.length := by
  fun_induction string quote cs with
  | case1 => simp
  | case2 => simp
  | case3 => simp
  | case4 d r body rest heq ih =>
    rw [heq] at ih
    simp at ih ⊢
    omega
  | case5 => simp
  | case6 c d r hs hq body rest heq ih =>
    rw [heq] at ih
    simp at ih ⊢
    omega

theorem bareKey?_length_lt {cs key rest : List Char} (h : bareKey? cs = some (key, rest)) : rest.length < cs.length := by
  unfold bareKey? at h
  split at h
  next => cases h
  next c r =>
    split at h
    next hc =>
      simp only at h
      split at h
      next =>
        obtain ⟨rfl, rfl⟩ := Prod.mk.inj (Option.some.inj h)
        have hkey : isKeyChar c = true := by simp [isKeyChar, hc]
        rw [List.dropWhile_cons, if_pos hkey, List.length_cons]
        exact Nat.lt_succ_of_le (List.dropWhile_sublist _).length_le
      next => cases h
    next => cases h

/-- Fuel for every character is enough. -/
theorem strictFrom_congr {cs : List Char} {m n : Nat} (e : Bool) (hm : cs.length ≤ m) (hn : cs.length ≤ n) :
    strictFrom m e cs = strictFrom n e cs := by
  induction m generalizing n e cs with
  | zero =>
    obtain rfl := List.eq_nil_of_length_eq_zero (Nat.le_zero.mp hm)
    cases n <;> rfl
  | succ m ih =>
    cases cs with
    | nil => cases n <;> rfl
    | cons c r =>
      obtain _ | n := n
      · simp at hn
      rw [List.length_cons] at hm hn
      have hr : r.length ≤ m := by omega
      have hr' : r.length ≤ n := by omega
      rw [strictFrom, strictFrom]
      split
      next =>
        have hstring := string_length_le c r
        simp only
        rw [ih false (Nat.le_trans hstring hr) (Nat.le_trans hstring hr')]
      split
      next => rw [ih true hr hr']
      split
      next => rw [ih e hr hr']
      split
      next key rest hkey =>
        have hlt : rest.length < (c :: r).length := by
          cases e with
          | true => exact bareKey?_length_lt hkey
          | false => cases hkey
        have hrest : rest.length ≤ r.length := by
          rw [List.length_cons] at hlt
          omega
        rw [ih false (Nat.le_trans hrest hr) (Nat.le_trans hrest hr')]
      next => rw [ih false hr hr']

/-- The rewritten text of the rest of a literal; `e` tells whether a bare key may come next. -/
def strictText (e : Bool) (cs : List Char) : List Char :=
  strictFrom cs.length e cs

theorem strictText_nil (e : Bool) : strictText e [] = [] := by
  rfl

theorem strictText_quote {quote : Char} {r body rest : List Char} (hq : quote = '\'' ∨ quote = '"')
    (h : string quote r = (body, rest)) (e : Bool) :
    strictText e (quote :: r) = '"' :: (body ++ '"' :: strictText false rest) := by
  have hrest := string_length_le quote r
  rw [h] at hrest
  have hfuel : strictText false rest = strictFrom r.length false rest := strictFrom_congr false (Nat.le_refl _) hrest
  rw [strictText, List.length_cons, strictFrom, if_pos (by simpa using hq), h, hfuel]
  rfl

theorem strictText_mark {c : Char} (hc : c = '{' ∨ c = ',') (e : Bool) (r : List Char) :
    strictText e (c :: r) = c :: strictText true r := by
  have hq : ¬(decide (c = '\'') || decide (c = '"')) = true := by
    rcases hc with rfl | rfl <;> decide
  rw [strictText, List.length_cons, strictFrom, if_neg hq, if_pos (by simpa using hc), strictText]

/-- A character without a meaning of its own for the rewriting. -/
def IsPlain (c : Char) : Prop :=
  c ≠ '\'' ∧ c ≠ '"' ∧ c ≠ '{' ∧ c ≠ ',' ∧ Text.isBlank c = false

instance (c : Char) : Decidable (IsPlain c) :=
  inferInstanceAs (Decidable (_ ∧ _))

theorem strictText_blank {c : Char} (hc : Text.isBlank c = true) (e : Bool) (r : List Char) :
    strictText e (c :: r) = c :: strictText e r := by
  have hq : ¬(decide (c = '\'') || decide (c = '"')) = true := by
    intro h
    rcases (by simpa using h : c = '\'' ∨ c = '"') with rfl | rfl <;> exact absurd hc (by decide)
  have hm : ¬(decide (c = '{') || decide (c = ',')) = true := by
    intro h
    rcases (by simpa using h : c = '{' ∨ c = ',') with rfl | rfl <;> exact absurd hc (by decide)
  rw [strictText, List.length_cons, strictFrom, if_neg hq, if_neg hm, if_pos hc, strictText]

theorem strictText_key {c : Char} (hc : IsPlain c) {r key rest : List Char} (h : bareKey? (c :: r) = some (key, rest)) :
    strictText true (c :: r) = '"' :: (key ++ '"' :: strictText false rest) := by
  obtain ⟨hs, hd, ho, hm, hb⟩ := hc
  have hlt := bareKey?_length_lt h
  have hrest : rest.length ≤ r.length := by
    rw [List.length_cons] at hlt
    omega
  have hfuel : strictText false rest = strictFrom r.length false rest := strictFrom_congr false (Nat.le_refl _) hrest
  rw [strictText, List.length_cons, strictFrom, if_neg (by simp [hs, hd]), if_neg (by simp [ho, hm]),
    if_neg (by simp [hb]), if_pos rfl, h, hfuel]
  rfl

theorem strictText_plain {c : Char} (hc : IsPlain c) {e : Bool} {r : List Char}
    (h : e = true → bareKey? (c :: r) = none) : strictText e (c :: r) = c :: strictText false r := by
  obtain ⟨hs, hd, ho, hm, hb⟩ := hc
  have hkey : (if e then bareKey? (c :: r) else none) = none := by
    cases e with
    | true => exact h rfl
    | false => rfl
  rw [strictText, List.length_cons, strictFrom, if_neg (by simp [hs, hd]), if_neg (by simp [ho, hm]),
    if_neg (by simp [hb]), hkey, strictText]

/-! ### Strings -/

theorem string_close {quote : Char} (hq : quote ≠ '\\') (rest : List Char) : string quote (quote :: rest) = ([], rest) := by
  cases rest with
  | nil => simp [string]
  | cons => simp [string, hq]

theorem string_escape (quote c : Char) (rest : List Char) :
    string quote ('\\' :: c :: rest) = (requoteEscape quote c ++ (string quote rest).1, (string quote rest).2) := by
  rw [string, if_pos rfl]

theorem string_raw {quote c : Char} (hs : c ≠ '\\') (hq : c ≠ quote) (rest : List Char) :
    string quote (c :: rest) = (requote quote c ++ (string quote rest).1, (string quote rest).2) := by
  cases rest with
  | nil => simp [string, hq]
  | cons => rw [string, if_neg hs, if_neg hq]

theorem string_append_of_raw {quote : Char} {cs : List Char} (h : ∀ c ∈ cs, c ≠ '\\' ∧ c ≠ '\'' ∧ c ≠ '"')
    (hq : quote = '\'' ∨ quote = '"') (rest : List Char) :
    string quote (cs ++ rest) = (cs ++ (string quote rest).1, (string quote rest).2) := by
  induction cs with
  | nil => rfl
  | cons c cs ih =>
    obtain ⟨hs, hsingle, hdouble⟩ := h c List.mem_cons_self
    have hne : c ≠ quote := by
      rcases hq with rfl | rfl <;> assumption
    have hrequote : requote quote c = [c] := by simp [requote, hdouble]
    rw [List.cons_append, string_raw hs hne, ih fun d hd => h d (List.mem_cons_of_mem _ hd), hrequote]
    rfl

theorem raw_of_digits {ds : List Char} {n : Nat} (h : Ipv4.Digits 16 ds n) :
    ∀ c ∈ ds, c ≠ '\\' ∧ c ≠ '\'' ∧ c ≠ '"' := by
  intro c hc
  obtain ⟨d, hd⟩ := h.exists_digit c hc
  refine ⟨?_, ?_, ?_⟩ <;> rintro rfl <;> exact absurd hd.isHexDigit (by decide)

theorem string_append_of_escape {quote : Char} {n : Nat} {cs : List Char} (h : Escape n cs)
    (hq : quote = '\'' ∨ quote = '"') (rest : List Char) :
    string quote (cs ++ rest) = (cs ++ (string quote rest).1, (string quote rest).2) := by
  cases h with
  | @letter e c h =>
    have he : e ≠ '\'' := by
      have hall : ∀ p ∈ Json.escapeLetters, p.1 ≠ '\'' := by decide
      exact hall _ h
    have hrequote : requoteEscape quote e = ['\\', e] := by simp [requoteEscape, he]
    rw [List.cons_append, List.singleton_append, string_escape, hrequote]
  | @code n ds h hl =>
    have hrequote : requoteEscape quote 'u' = ['\\', 'u'] := by simp [requoteEscape]
    rw [List.cons_append, List.cons_append, string_escape, hrequote, string_append_of_raw (raw_of_digits h) hq]
    rfl

/-- A unit is rewritten to the same unit in double quotes. -/
theorem string_append_of_piece {quote : Char} {n : Nat} {cs : List Char} (h : Piece quote n cs)
    (hq : quote = '\'' ∨ quote = '"') :
    ∃ cs', Piece '"' n cs' ∧
      ∀ rest, string quote (cs ++ rest) = (cs' ++ (string quote rest).1, (string quote rest).2) := by
  cases h with
  | @raw _ c hc hne hs =>
    by_cases hd : c = '"'
    · subst hd
      have hsingle : quote = '\'' := hq.resolve_right (Ne.symm hne)
      subst hsingle
      refine ⟨['\\', '"'], .escape (.letter (by decide)), fun rest => ?_⟩
      rw [List.singleton_append, string_raw hs hne]
      rfl
    · refine ⟨[c], .raw hc hd hs, fun rest => ?_⟩
      have hrequote : requote quote c = [c] := by simp [requote, hd]
      rw [List.singleton_append, string_raw hs hne, hrequote]
  | escape h => exact ⟨cs, .escape h, string_append_of_escape h hq⟩
  | singleQuote =>
    refine ⟨['\''], .raw (by decide) (by decide) (by decide), fun rest => ?_⟩
    rw [List.cons_append, List.singleton_append, string_escape]
    rfl

theorem string_append_of_pieces {quote : Char} {units : List Nat} {cs : List Char} (h : Pieces quote units cs)
    (hq : quote = '\'' ∨ quote = '"') :
    ∃ cs', Pieces '"' units cs' ∧ ∀ rest, string quote (cs ++ quote :: rest) = (cs', rest) := by
  induction h with
  | nil =>
    refine ⟨[], .nil, fun rest => string_close ?_ rest⟩
    rcases hq with rfl | rfl <;> decide
  | cons h _ ih =>
    obtain ⟨first, hfirst, hstep⟩ := string_append_of_piece h hq
    obtain ⟨others, hothers, hrest⟩ := ih
    refine ⟨first ++ others, .cons hfirst hothers, fun rest => ?_⟩
    rw [List.append_assoc, hstep, hrest]

/-! ### Keys, words and numbers -/

theorem isBlank_of_isSpace {c : Char} (h : Json.isSpace c = true) : Text.isBlank c = true :=
  Json.of_isSpace (P := fun c => Text.isBlank c = true) (Text.forall_mem (by decide)) h

theorem blanks_of_space {cs : List Char} (h : Space cs) : Text.Blanks cs :=
  fun c hc => isBlank_of_isSpace (h c hc)

theorem strictText_space {gap : List Char} (h : Space gap) (e : Bool) (rest : List Char) :
    strictText e (gap ++ rest) = gap ++ strictText e rest := by
  induction gap with
  | nil => rfl
  | cons c gap ih =>
    rw [List.cons_append, strictText_blank (isBlank_of_isSpace (h c List.mem_cons_self)),
      ih fun d hd => h d (List.mem_cons_of_mem _ hd)]
    rfl

/-- No colon comes after a value, whatever blanks and key characters are passed over. -/
theorem no_colon_of_follows {rest : List Char} (h : Follows rest) :
    (Text.trimStart (rest.dropWhile isKeyChar)).head? ≠ some ':' := by
  cases h with
  | @follows gap rest hg hr =>
    have hmarks : ∀ c, rest.head? = some c → c ≠ ':' ∧ Text.isBlank c = false ∧ isKeyChar c = false := by
      intro c hc
      rcases hr c hc with rfl | rfl | rfl <;> decide
    have hhead : ∀ c, (gap ++ rest).head? = some c → isKeyChar c = false :=
      hg.head_append (Text.forall_mem (by decide)) fun c hc => (hmarks c hc).2.2
    have hkey := @Text.dropWhile_append_of_stop isKeyChar [] (gap ++ rest) (List.forall_mem_nil _) hhead
    rw [List.nil_append] at hkey
    rw [hkey, Text.trimStart_append (fun c hc => isBlank_of_isSpace (hg c hc)) fun c hc => (hmarks c hc).2.1]
    intro hc
    exact (hmarks _ hc).1 rfl

theorem bareKey?_of_no_colon {cs : List Char} (h : (Text.trimStart (cs.dropWhile isKeyChar)).head? ≠ some ':') :
    bareKey? cs = none := by
  unfold bareKey?
  split
  next => rfl
  next =>
    split
    next =>
      simp only
      split
      next heq =>
        rw [heq] at h
        exact absurd rfl h
      next => rfl
    next => rfl

/-- A text in which the rewriting finds nothing, nor a colon. -/
def Inert (cs : List Char) : Prop :=
  ∀ c ∈ cs, IsPlain c ∧ c ≠ ':'

instance (cs : List Char) : Decidable (Inert cs) :=
  decidable_of_iff ((cs.all fun c => decide (IsPlain c ∧ c ≠ ':')) = true) (by simp [Inert])

theorem Inert.append {a b : List Char} (ha : Inert a) (hb : Inert b) : Inert (a ++ b) :=
  List.forall_mem_append.mpr ⟨ha, hb⟩

theorem bareKey?_of_inert {cs rest : List Char} (h : Inert cs) (hr : Follows rest) :
    bareKey? (cs ++ rest) = none := by
  apply bareKey?_of_no_colon
  induction cs with
  | nil => exact no_colon_of_follows hr
  | cons c cs ih =>
    rw [List.cons_append, List.dropWhile_cons]
    split
    next => exact ih fun d hd => h d (List.mem_cons_of_mem _ hd)
    next =>
      obtain ⟨⟨-, -, -, -, hb⟩, hc⟩ := h c List.mem_cons_self
      rw [Text.trimStart, List.dropWhile_cons, if_neg (by simp [hb])]
      simpa using hc

theorem strictText_append_plain {cs : List Char} (h : ∀ c ∈ cs, IsPlain c) (rest : List Char) :
    strictText false (cs ++ rest) = cs ++ strictText false rest := by
  induction cs with
  | nil => rfl
  | cons c cs ih =>
    rw [List.cons_append, strictText_plain (h c List.mem_cons_self) (by simp), ih fun d hd => h d (List.mem_cons_of_mem _ hd)]
    rfl

/-- Words and numbers stay as they are, whether a key may come or not. -/
theorem strictText_inert {cs : List Char} (h : Inert cs) (hne : cs ≠ []) (e : Bool)
    {rest : List Char} (hr : Follows rest) : strictText e (cs ++ rest) = cs ++ strictText false rest := by
  obtain ⟨c, cs, rfl⟩ := List.exists_cons_of_ne_nil hne
  have hkey := bareKey?_of_inert h hr
  rw [List.cons_append] at hkey ⊢
  rw [strictText_plain (h c List.mem_cons_self).1 fun _ => hkey,
    strictText_append_plain fun d hd => (h d (List.mem_cons_of_mem _ hd)).1]
  rfl

theorem inert_of_isAsciiDigit {ds : List Char} (h : ∀ c ∈ ds, Text.isAsciiDigit c = true) : Inert ds := by
  intro c hc
  have hdigit := h c hc
  have hb : Text.isBlank c = false := by
    simp only [Text.isAsciiDigit, Bool.and_eq_true, decide_eq_true_eq] at hdigit
    simp [Text.isBlank]
    omega
  refine ⟨⟨?_, ?_, ?_, ?_, hb⟩, ?_⟩ <;> rintro rfl <;> exact absurd hdigit (by decide)

theorem inert_digits {ds : List Char} {n : Nat} (h : Ipv4.Digits 10 ds n) : Inert ds :=
  inert_of_isAsciiDigit h.isAsciiDigit

theorem inert_minus (negative : Bool) : Inert (Json.minus negative) := by
  cases negative with
  | true => exact Text.forall_mem (by decide)
  | false => exact List.forall_mem_nil _

theorem inert_fraction {places? : Option (List Char)} {cs : List Char} (h : Json.Fraction places? cs) : Inert cs := by
  cases h with
  | absent => exact List.forall_mem_nil _
  | places h => exact List.forall_mem_cons.mpr ⟨by decide, inert_digits h⟩

theorem inert_exponent {power? : Option Int} {cs : List Char} (h : Json.Exponent power? cs) : Inert cs := by
  cases h with
  | absent => exact List.forall_mem_nil _
  | @power e negative sign ds n he hs h hne =>
    have hsign : Inert sign := by
      cases hs with
      | absent => exact List.forall_mem_nil _
      | plus => exact Text.forall_mem (by decide)
      | minus => exact Text.forall_mem (by decide)
    refine List.forall_mem_cons.mpr ⟨?_, hsign.append (inert_digits h)⟩
    rcases he with rfl | rfl <;> decide

theorem inert_number {t : Tree} {cs : List Char} (h : Number t cs) : Inert cs := by
  cases h with
  | integer h => exact (inert_minus _).append (inert_digits h.digits)
  | double h hf he =>
    exact (inert_minus _).append ((inert_digits h.digits).append ((inert_fraction hf).append (inert_exponent he)))

/-! ### Bare keys -/

/-- The characters of keys are written raw in strings, and the rewriting knows none of them. -/
theorem isPlain_of_isKeyChar {c : Char} (h : isKeyChar c = true) :
    IsPlain c ∧ c ≠ ':' ∧ c ≠ '\\' ∧ 32 ≤ c.toNat := by
  have hb : Text.isBlank c = false := by
    rw [← Bool.not_eq_true]
    intro hb
    exact absurd h (Text.of_isBlank (P := fun c => ¬isKeyChar c = true) (by decide +kernel) hb)
  have hlow : 32 ≤ c.toNat := by
    by_contra hlt
    have hall : ∀ n < 32, isKeyChar (Char.ofNat n) = false := by decide
    have := hall c.toNat (by omega)
    rw [Char.ofNat_toNat, h] at this
    cases this
  refine ⟨⟨?_, ?_, ?_, ?_, hb⟩, ?_, ?_, hlow⟩ <;> rintro rfl <;> exact absurd h (by decide)

theorem bareKey?_append {cs gap rest : List Char} (h : BareKey cs) (hg : Space gap) :
    bareKey? (cs ++ (gap ++ ':' :: rest)) = some (cs, gap ++ ':' :: rest) := by
  have hhead : ∀ c, (gap ++ ':' :: rest).head? = some c → isKeyChar c = false := by
    refine hg.head_append (Text.forall_mem (by decide)) fun c hc => ?_
    obtain rfl := Option.some.inj hc
    decide
  have htake := Text.takeWhile_append_of_stop h.chars hhead
  have hdrop := Text.dropWhile_append_of_stop h.chars hhead
  have hcolon : Text.trimStart (gap ++ ':' :: rest) = ':' :: rest := by
    apply Text.trimStart_append fun c hc => isBlank_of_isSpace (hg c hc)
    intro c hc
    obtain rfl := Option.some.inj hc
    decide
  obtain ⟨c, cs, rfl⟩ := List.exists_cons_of_ne_nil h.ne_nil
  rw [List.cons_append] at htake hdrop ⊢
  simp only [bareKey?, h.start c rfl, if_true, htake, hdrop, hcolon]

/-- A bare key in double quotes is the same key. -/
theorem bareKey_text {cs : List Char} (h : BareKey cs) : StringText .strict (String.ofList cs) ('"' :: (cs ++ ['"'])) := by
  refine .of_raw (.inl rfl) fun c hc => ?_
  obtain ⟨⟨-, hq, -⟩, -, hs, hlow⟩ := isPlain_of_isKeyChar (h.chars c hc)
  exact ⟨hlow, hq, hs⟩

/-! ### Whole literals -/

/-- A text of a part is rewritten to another one, whatever comes after it.  A key may come at the start of a field, and
nowhere but after a value need the rewriting know what follows. -/
def Rewrites : Part → List Char → List Char → Prop
  | .value _, cs, cs' => ∀ (e : Bool) (rest : List Char), Follows rest →
    strictText e (cs ++ rest) = cs' ++ strictText false rest
  | .items _, cs, cs' => ∀ (e : Bool) (rest : List Char), strictText e (cs ++ rest) = cs' ++ strictText false rest
  | .field _ _, cs, cs' => ∀ rest : List Char, Follows rest → strictText true (cs ++ rest) = cs' ++ strictText false rest
  | .fields _, cs, cs' => ∀ rest : List Char, strictText true (cs ++ rest) = cs' ++ strictText false rest

theorem strictText_bracket {c : Char} (hc : IsPlain c) (hk : isKeyStart c = false) (e : Bool) (r : List Char) :
    strictText e (c :: r) = c :: strictText false r :=
  strictText_plain hc fun _ => by simp [bareKey?, hk]

theorem rewrites_inert {t : Tree} {cs : List Char} (h : Inert cs) (hne : cs ≠ []) : Rewrites (.value t) cs cs :=
  fun e _ hr => strictText_inert h hne e hr

theorem strictText_string {dialect : Dialect} {s : String} {cs : List Char} (h : StringText dialect s cs) :
    ∃ cs', StringText .strict s cs' ∧
      ∀ (e : Bool) (rest : List Char), strictText e (cs ++ rest) = cs' ++ strictText false rest := by
  have hquoted : ∀ {quote : Char} {units : List Nat} {body : List Char}, Pieces quote units body →
      (hq : quote = '\'' ∨ quote = '"') → ∃ cs', StringText .strict (String.ofList (joinUnits units)) cs' ∧
        ∀ (e : Bool) (rest : List Char),
          strictText e (quote :: (body ++ [quote]) ++ rest) = cs' ++ strictText false rest := by
    intro quote units body h hq
    obtain ⟨body', hbody, hstring⟩ := string_append_of_pieces h hq
    refine ⟨_, .double hbody, fun e rest => ?_⟩
    simp only [List.cons_append, List.append_assoc, List.nil_append]
    exact strictText_quote hq (hstring rest) e
  cases h with
  | double h => exact hquoted h (.inr rfl)
  | single h => exact hquoted h (.inl rfl)

theorem strictText_keyText {dialect : Dialect} {key : String} {name : List Char} (h : KeyText dialect key name) :
    ∃ name', StringText .strict key name' ∧ ∀ {gap : List Char} (rest : List Char), Space gap →
      strictText true (name ++ (gap ++ ':' :: rest)) = name' ++ strictText false (gap ++ ':' :: rest) := by
  cases h with
  | text h =>
    obtain ⟨name', hname, hstring⟩ := strictText_string h
    exact ⟨name', hname, fun rest _ => hstring true _⟩
  | bare h =>
    refine ⟨_, bareKey_text h, fun {gap} rest hg => ?_⟩
    have hkey : bareKey? _ = some (_, gap ++ ':' :: rest) := bareKey?_append h hg
    obtain ⟨c, cs, rfl⟩ := List.exists_cons_of_ne_nil h.ne_nil
    have hc := (isPlain_of_isKeyChar (h.chars c List.mem_cons_self)).1
    rw [List.cons_append] at hkey ⊢
    rw [strictText_key hc hkey]
    simp

/-- A literal is rewritten to JSON text of the same value. -/
theorem exists_rewrites {dialect : Dialect} {part : Part} {cs : List Char} (h : Spelling dialect part cs) :
    ∃ cs', Spelling .strict part cs' ∧ Rewrites part cs cs' := by
  induction h with
  | null => exact ⟨_, .null, rewrites_inert (Text.forall_mem (by decide)) (by decide)⟩
  | boolean b =>
    refine ⟨_, .boolean b, rewrites_inert ?_ (by cases b <;> decide)⟩
    cases b <;> exact Text.forall_mem (by decide)
  | number h =>
    refine ⟨_, .number h, rewrites_inert (inert_number h) ?_⟩
    obtain ⟨d, tail, -, rfl | rfl⟩ := h.head <;> exact List.cons_ne_nil _ _
  | text h =>
    obtain ⟨cs', h', hstring⟩ := strictText_string h
    exact ⟨cs', .text h', fun e rest _ => hstring e rest⟩
  | @emptyArray gap hg =>
    refine ⟨_, .emptyArray hg, fun e rest _ => ?_⟩
    simp only [List.cons_append, List.append_assoc, List.nil_append]
    rw [strictText_bracket (by decide) (by decide), strictText_space hg,
      strictText_bracket (by decide) (by decide)]
  | array _ ih =>
    obtain ⟨cs', h', hitems⟩ := ih
    refine ⟨_, .array h', fun e rest _ => ?_⟩
    rw [List.cons_append, strictText_bracket (by decide) (by decide), hitems]
    rfl
  | emptyObject hg =>
    refine ⟨_, .emptyObject hg, fun e rest _ => ?_⟩
    simp only [List.cons_append, List.append_assoc, List.nil_append]
    rw [strictText_mark (.inl rfl), strictText_space hg, strictText_bracket (by decide) (by decide)]
  | object _ hd ih =>
    obtain ⟨cs', h', hfields⟩ := ih
    refine ⟨_, .object h' hd, fun e rest _ => ?_⟩
    rw [List.cons_append, strictText_mark (.inl rfl), hfields]
    rfl
  | lastItem hb _ ha ih =>
    obtain ⟨cs', h', hvalue⟩ := ih
    refine ⟨_, .lastItem hb h' ha, fun e rest => ?_⟩
    simp only [List.append_assoc, List.cons_append, List.nil_append]
    rw [strictText_space hb, hvalue e _ (.of_mark ha (by simp)), strictText_space ha,
      strictText_bracket (by decide) (by decide)]
  | nextItem hb _ ha _ ih ihr =>
    obtain ⟨cs', h', hvalue⟩ := ih
    obtain ⟨others, hr', hitems⟩ := ihr
    refine ⟨_, .nextItem hb h' ha hr', fun e rest => ?_⟩
    simp only [List.append_assoc, List.cons_append]
    rw [strictText_space hb, hvalue e _ (.of_mark ha (by simp)), strictText_space ha, strictText_mark (.inr rfl), hitems]
  | field hk hg hs _ ih =>
    obtain ⟨name', hk', hkey⟩ := strictText_keyText hk
    obtain ⟨cs', h', hvalue⟩ := ih
    refine ⟨_, .field (.text hk') hg hs h', fun rest hr => ?_⟩
    simp only [List.append_assoc, List.cons_append]
    rw [hkey _ hg, strictText_space hg, strictText_bracket (by decide) (by decide), strictText_space hs, hvalue _ _ hr]
  | lastField hb _ ha ih =>
    obtain ⟨cs', h', hfield⟩ := ih
    refine ⟨_, .lastField hb h' ha, fun rest => ?_⟩
    simp only [List.append_assoc, List.cons_append, List.nil_append]
    rw [strictText_space hb, hfield _ (.of_mark ha (by simp)), strictText_space ha,
      strictText_bracket (by decide) (by decide)]
  | nextField hb _ ha _ ih ihr =>
    obtain ⟨cs', h', hfield⟩ := ih
    obtain ⟨others, hr', hfields⟩ := ihr
    refine ⟨_, .nextField hb h' ha hr', fun rest => ?_⟩
    simp only [List.append_assoc, List.cons_append]
    rw [strictText_space hb, hfield _ (.of_mark ha (by simp)), strictText_space ha, strictText_mark (.inr rfl), hfields]

theorem strict_document {dialect : Dialect} {t : Tree} {cs : List Char} (h : DocumentText dialect t cs) :
    DocumentText .strict t (strict cs) := by
  cases h with
  | @document before cs after hb h ha =>
    obtain ⟨cs', h', hvalue⟩ := exists_rewrites h
    have hstrict : strict (before ++ (cs ++ after)) = before ++ (cs' ++ after) := by
      have hafter : strictText false after = after := by
        have := strictText_space ha false []
        rwa [List.append_nil, strictText_nil, List.append_nil] at this
      show strictText false _ = _
      rw [strictText_space hb, hvalue false after ha.follows, hafter]
    rw [hstrict]
    exact .document hb h' ha

example : strict "\x7ba-b: 'it\\'s', \"c\": [true, \x7bd:\"a:b\"\x7d]\x7d".toList =
    "\x7b\"a-b\": \"it's\", \"c\": [true, \x7b\"d\":\"a:b\"\x7d]\x7d".toList := by
  decide

end SiteReader.Relaxed
