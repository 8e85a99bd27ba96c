import SiteReader.Path.Parser
import SiteReader.Proofs.Text.Trim

/-!
# The grammar of paths

A path is `$.`, or `$` and its segments one after the other (`PathText`).  Each segment has its own forms (`SegmentText`),
which the functions that split off the parts of a segment accept and split off again: a name (`run?_append`), a quoted
text (`quoted?_append`), a literal (`comparison?_append`), a filter (`filter?_append`).  Conversely, what they split off is
of these forms (`FilterText.of_filter?`).
-/

namespace SiteReader.Path

open Text (Blanks trimStart_append eq_append_trimStart isDecimal_of_isBlank)

/-! ### Forms -/

/-- At least one character, all of some class. -/
def Run (p : Char → Bool) (cs : List Char) : Prop :=
  cs ≠ [] ∧ ∀ c ∈ cs, p c = true

/-- A text without the quote, in this quote. -/
inductive Quoted : List Char → List Char → Prop
  | quoted {q : Char} {body : List Char} (hq : q = '\'' ∨ q = '"') (hb : q ∉ body) : Quoted body (q :: (body ++ [q]))

/-- Digits with an optional sign and an optional fraction. -/
inductive BareDecimal : List Char → Prop
  | whole {sign digits : List Char} (hs : sign = [] ∨ sign = ['-']) (hd : Run Text.isDecimal digits) :
      BareDecimal (sign ++ digits)
  | fraction {sign digits places : List Char} (hs : sign = [] ∨ sign = ['-']) (hd : Run Text.isDecimal digits)
      (hp : Run Text.isDecimal places) : BareDecimal (sign ++ (digits ++ '.' :: places))

/-- The literal of a filter: its value and how it is written. -/
inductive Literal : List Char → List Char → Prop
  | quoted {value cs : List Char} (h : Quoted value cs) : Literal value cs
  | bare {cs : List Char} (h : BareDecimal cs) : Literal cs cs

/-- A filter in its brackets, which tests for a field or compares it with a literal. -/
inductive FilterText : List Char → Option (List Char) → List Char → Prop
  | present {before name after : List Char} (hb : Blanks before) (hn : Run isFilterNameChar name) (ha : Blanks after) :
      FilterText name none ("[?(".toList ++ (before ++ ("@.".toList ++ (name ++ (after ++ ")]".toList)))))
  | compared {before name gap equals space value text after : List Char} (hb : Blanks before)
      (hn : Run isFilterNameChar name) (hg : Blanks gap) (he : equals = ['='] ∨ equals = ['=', '=']) (hs : Blanks space)
      (hl : Literal value text) (ha : Blanks after) :
      FilterText name (some value) ("[?(".toList ++ (before ++ ("@.".toList ++
        (name ++ (gap ++ (equals ++ (space ++ (text ++ (after ++ ")]".toList)))))))))

/-- The forms of a segment. -/
inductive SegmentText : Segment → List Char → Prop
  | field {name : List Char} (hn : Run isNameChar name) (hs : name.head? ≠ some '*') :
      SegmentText (.field (String.ofList name)) ('.' :: name)
  | quotedField {before name cs after : List Char} (hb : Blanks before) (hn : Quoted name cs) (ha : Blanks after) :
      SegmentText (.field (String.ofList name)) ('[' :: (before ++ (cs ++ (after ++ [']']))))
  | item {digits : List Char} (hd : Run Text.isDecimal digits) (hlen : digits.length ≤ Numeral.digitLimit) :
      SegmentText (.item (Numeral.value digits)) ('[' :: (digits ++ [']']))
  | star : SegmentText .wildcard ".*".toList
  | bracketStar : SegmentText .wildcard "[*]".toList
  | search {name : List Char} (hn : Run isNameChar name) :
      SegmentText (.search (String.ofList name)) ("..".toList ++ name)
  | filter {name : List Char} {value? : Option (List Char)} {cs : List Char} (h : FilterText name value? cs) :
      SegmentText (.filter (String.ofList name) (value?.map String.ofList)) ("..".toList ++ cs)

/-- Segments one after the other. -/
inductive Segments : List Segment → List Char → Prop
  | nil : Segments [] []
  | cons {segment : Segment} {segments : List Segment} {cs rest : List Char} (h : SegmentText segment cs)
      (hr : Segments segments rest) : Segments (segment :: segments) (cs ++ rest)

/-- A path without blanks around it. -/
inductive PathText : List Segment → List Char → Prop
  | document : PathText [] "$.".toList
  | segments {segments : List Segment} {cs : List Char} (h : Segments segments cs) : PathText segments ('$' :: cs)

/-- After any segments an index with more digits than integers may have, whatever follows it. -/
def EndlessIndex (cs : List Char) : Prop :=
  ∃ segments before digits after, Segments segments before ∧ (∀ c ∈ digits, Text.isDecimal c = true) ∧
    Numeral.digitLimit < digits.length ∧ cs = '$' :: (before ++ '[' :: (digits ++ ']' :: after))

/-! ### The first character -/

theorem Run.head {p : Char → Bool} {cs : List Char} (h : Run p cs) : ∃ c rest, cs = c :: rest ∧ p c = true := by
  obtain ⟨c, rest, rfl⟩ := List.exists_cons_of_ne_nil h.1
  exact ⟨c, rest, rfl, h.2 c List.mem_cons_self⟩

theorem BareDecimal.head {cs : List Char} (h : BareDecimal cs) :
    ∃ c rest, cs = c :: rest ∧ (c = '-' ∨ Text.isDecimal c = true) := by
  cases h with
  | whole hs hd =>
    obtain ⟨c, rest, rfl, hc⟩ := hd.head
    rcases hs with rfl | rfl
    · exact ⟨c, rest, rfl, .inr hc⟩
    · exact ⟨'-', c :: rest, rfl, .inl rfl⟩
  | @fraction _ _ places hs hd =>
    obtain ⟨c, rest, rfl, hc⟩ := hd.head
    rcases hs with rfl | rfl
    · exact ⟨c, rest ++ '.' :: places, rfl, .inr hc⟩
    · exact ⟨'-', c :: rest ++ '.' :: places, rfl, .inl rfl⟩

/-- A literal starts with a quote, a minus or a digit. -/
theorem Literal.head {value cs : List Char} (h : Literal value cs) :
    ∃ c rest, cs = c :: rest ∧ Text.isBlank c = false ∧ c ≠ '=' := by
  cases h with
  | quoted h =>
    cases h with
    | @quoted q _ hq =>
      refine ⟨q, value ++ [q], rfl, ?_⟩
      rcases hq with rfl | rfl <;> decide
  | bare h =>
    obtain ⟨c, rest, rfl, hc⟩ := h.head
    refine ⟨c, rest, rfl, ?_⟩
    rcases hc with rfl | hc
    · decide
    · constructor
      · rw [← Bool.not_eq_true]
        intro hb
        rw [isDecimal_of_isBlank hb] at hc
        cases hc
      · rintro rfl
        exact absurd hc (by decide)

/-! ### Splitting off what the grammar has -/

theorem run?_append {p : Char → Bool} {cs rest : List Char} (h : Run p cs)
    (hs : ∀ c, rest.head? = some c → p c = false) : run? p (cs ++ rest) = some (cs, rest) := by
  rw [run?, Text.takeWhile_append_of_stop h.2 hs, Text.dropWhile_append_of_stop h.2 hs]
  split
  next => exact absurd rfl h.1
  next => rfl

theorem run?_eq_none {p : Char → Bool} {cs : List Char} (h : ∀ c, cs.head? = some c → p c = false) :
    run? p cs = none := by
  cases cs with
  | nil => rfl
  | cons c rest => simp [run?, h c rfl]

theorem quoted?_append {body cs : List Char} (h : Quoted body cs) (rest : List Char) :
    quoted? (cs ++ rest) = some (body, rest) := by
  cases h with
  | @quoted q _ hq hb =>
    have hquote : (q = '\'' || q = '"') = true := by simpa using hq
    have hne := Text.ne_of_not_mem hb
    have hstop : ∀ c, (q :: rest).head? = some c → (c != q) = false := by
      intro c hc
      obtain rfl := Option.some.inj hc
      simp
    have hshape : q :: (body ++ [q]) ++ rest = q :: (body ++ q :: rest) := by simp
    rw [hshape, quoted?, if_pos hquote, Text.dropWhile_append_of_stop hne hstop, Text.takeWhile_append_of_stop hne hstop]

theorem quoted?_eq_none {c : Char} (h : c ≠ '\'' ∧ c ≠ '"') (rest : List Char) : quoted? (c :: rest) = none := by
  simp [quoted?, h]

/-- Moves a point and the digits after it from a text to the end of a number. -/
def withFraction (number : List Char) : List Char → List Char × List Char
  | '.' :: r => match run? Text.isDecimal r with
    | some (places, rest) => (number ++ '.' :: places, rest)
    | none => (number, '.' :: r)
  | rest => (number, rest)

theorem some_withFraction (number rest : List Char) :
    (match rest with
      | '.' :: r => match run? Text.isDecimal r with
        | some (places, rest) => some (number ++ '.' :: places, rest)
        | none => some (number, rest)
      | _ => some (number, rest)) = some (withFraction number rest) := by
  unfold withFraction
  split
  next r => cases run? Text.isDecimal r <;> simp
  next => rfl

theorem bareDecimal?_eq {sign digits rest : List Char} (hs : sign = [] ∨ sign = ['-']) (hd : Run Text.isDecimal digits)
    (hr : ∀ c, rest.head? = some c → Text.isDecimal c = false) :
    bareDecimal? (sign ++ (digits ++ rest)) = some (withFraction (sign ++ digits) rest) := by
  have hrun := run?_append hd hr
  rcases hs with rfl | rfl
  · obtain ⟨c, more, rfl, hc⟩ := hd.head
    unfold bareDecimal?
    split
    next sign body heq =>
      split at heq
      next hminus =>
        -- no digit is taken for the sign
        obtain rfl := (List.cons.inj hminus).1
        exact absurd hc (by decide)
      next =>
        obtain ⟨rfl, rfl⟩ := Prod.mk.inj heq
        simp only [List.nil_append, hrun, Option.bind_eq_bind, Option.bind_some]
        exact some_withFraction (c :: more) rest
  · unfold bareDecimal?
    simp only [List.singleton_append, hrun, Option.bind_eq_bind, Option.bind_some]
    exact some_withFraction ('-' :: digits) rest

theorem bareDecimal?_append {cs rest : List Char} (h : BareDecimal cs)
    (hs : ∀ c, rest.head? = some c → Text.isDecimal c = false ∧ c ≠ '.') :
    bareDecimal? (cs ++ rest) = some (cs, rest) := by
  cases h with
  | @whole sign digits hsg hd =>
    rw [List.append_assoc, bareDecimal?_eq hsg hd fun c hc => (hs c hc).1]
    unfold withFraction
    split
    next r => exact absurd rfl (hs '.' rfl).2
    next => rfl
  | @fraction sign digits places hsg hd hp =>
    have hpoint : ∀ c, ('.' :: (places ++ rest)).head? = some c → Text.isDecimal c = false := by
      intro c hc
      obtain rfl := Option.some.inj hc
      decide
    have hplaces := run?_append hp fun c hc => (hs c hc).1
    have hshape : sign ++ (digits ++ '.' :: places) ++ rest = sign ++ (digits ++ '.' :: (places ++ rest)) := by simp
    rw [hshape, bareDecimal?_eq hsg hd hpoint]
    simp only [withFraction, hplaces, List.append_assoc]

theorem comparison?_append {equals space value text rest : List Char} (he : equals = ['='] ∨ equals = ['=', '='])
    (hs : Blanks space) (hl : Literal value text) (hr : ∀ c, rest.head? = some c → Text.isDecimal c = false ∧ c ≠ '.') :
    comparison? (equals ++ (space ++ (text ++ rest))) = some (value, rest) := by
  obtain ⟨c, more, htext, hblank, hne⟩ := hl.head
  have hhead : ∀ d, (text ++ rest).head? = some d → Text.isBlank d = false := by
    intro d hd
    rw [htext] at hd
    obtain rfl := Option.some.inj hd
    exact hblank
  have hbody : Text.trimStart (space ++ (text ++ rest)) = text ++ rest := trimStart_append hs hhead
  have hvalue : (quoted? (text ++ rest)).or (bareDecimal? (text ++ rest)) = some (value, rest) := by
    cases hl with
    | quoted h => rw [quoted?_append h, Option.some_or]
    | bare h =>
      obtain ⟨d, tail, htail, hd⟩ := h.head
      have hquote : d ≠ '\'' ∧ d ≠ '"' := by
        rcases hd with rfl | hd
        · decide
        · constructor <;> (rintro rfl; exact absurd hd (by decide))
      rw [bareDecimal?_append h hr, htail, List.cons_append, quoted?_eq_none hquote, Option.none_or]
  rcases he with rfl | rfl
  · unfold comparison?
    simp only [List.singleton_append]
    split
    next heq =>
      -- a second equality sign would have to be a blank or the start of the literal
      cases space with
      | nil =>
        rw [htext] at heq
        exact absurd (List.cons.inj heq).1 hne
      | cons d _ =>
        obtain rfl := (List.cons.inj heq).1
        exact absurd (hs '=' List.mem_cons_self) (by decide)
    next => rw [hbody, hvalue]
  · rw [List.cons_append, List.singleton_append, comparison?, hbody, hvalue]

theorem filterEnd?_append {after : List Char} (ha : Blanks after) (rest : List Char) :
    filterEnd? (after ++ (")]".toList ++ rest)) = some rest := by
  have hs : ∀ c, (")]".toList ++ rest).head? = some c → Text.isBlank c = false :=
    fun c hc => Option.some.inj hc ▸ (by decide : Text.isBlank ')' = false)
  rw [filterEnd?, trimStart_append ha hs]
  exact Text.dropHead?_append ")]".toList rest

theorem filter?_append {name : List Char} {value? : Option (List Char)} {cs : List Char} (h : FilterText name value? cs)
    (rest : List Char) : filter? (cs ++ rest) = some ((name, value?), rest) := by
  have hat : ∀ {before : List Char}, Blanks before → ∀ tail,
      Text.trimStart (before ++ ("@.".toList ++ tail)) = "@.".toList ++ tail :=
    fun hb tail => trimStart_append hb fun c hc => Option.some.inj hc ▸ by decide
  cases h with
  | @present before name after hb hn ha =>
    have hend : ∀ c, (after ++ (")]".toList ++ rest)).head? = some c → isFilterNameChar c = false := by
      intro c hc
      cases after with
      | nil => exact Option.some.inj hc ▸ by decide
      | cons d _ =>
        obtain rfl := Option.some.inj hc
        simp [isFilterNameChar, ha d List.mem_cons_self]
    have hbody : Text.trimStart (after ++ (")]".toList ++ rest)) = ")]".toList ++ rest :=
      trimStart_append ha fun c hc => Option.some.inj hc ▸ by decide
    have hnone : comparison? (")]".toList ++ rest) = none := rfl
    have hclose : filterEnd? (")]".toList ++ rest) = some rest := filterEnd?_append (List.forall_mem_nil _) rest
    simp only [List.append_assoc]
    simp only [filter?, Option.bind_eq_bind, show ['[', '?', '('] = "[?(".toList from rfl,
      show ['@', '.'] = "@.".toList from rfl, Text.dropHead?_append, Option.bind_some, hat hb, run?_append hn hend, hbody,
      hnone, hclose]
    rfl
  | @compared before name gap equals space value text after hb hn hg he hs hl ha =>
    obtain ⟨more, hequals⟩ : ∃ more, equals = '=' :: more := by rcases he with rfl | rfl <;> exact ⟨_, rfl⟩
    have hend : ∀ tail c, (gap ++ (equals ++ tail)).head? = some c → isFilterNameChar c = false := by
      intro tail c hc
      cases gap with
      | nil =>
        rw [hequals] at hc
        exact Option.some.inj hc ▸ by decide
      | cons d _ =>
        obtain rfl := Option.some.inj hc
        simp [isFilterNameChar, hg d List.mem_cons_self]
    have hbody : ∀ tail, Text.trimStart (gap ++ (equals ++ tail)) = equals ++ tail := by
      refine fun tail => trimStart_append hg fun c hc => ?_
      rw [hequals] at hc
      exact Option.some.inj hc ▸ by decide
    have hstop : ∀ c, (after ++ (")]".toList ++ rest)).head? = some c → Text.isDecimal c = false ∧ c ≠ '.' := by
      intro c hc
      cases after with
      | nil => exact Option.some.inj hc ▸ by decide
      | cons d _ =>
        obtain rfl := Option.some.inj hc
        refine ⟨isDecimal_of_isBlank (ha d List.mem_cons_self), ?_⟩
        rintro rfl
        exact absurd (ha '.' List.mem_cons_self) (by decide)
    simp only [List.append_assoc]
    simp only [filter?, Option.bind_eq_bind, show ['[', '?', '('] = "[?(".toList from rfl,
      show ['@', '.'] = "@.".toList from rfl, Text.dropHead?_append, Option.bind_some, hat hb, run?_append hn (hend _),
      hbody, comparison?_append he hs hl hstop, filterEnd?_append ha]
    rfl

theorem index?_append {digits : List Char} (hd : Run Text.isDecimal digits) (rest : List Char) :
    index? ('[' :: (digits ++ ']' :: rest)) = some (digits, rest) := by
  have hs : ∀ c, (']' :: rest).head? = some c → Text.isDecimal c = false :=
    fun c hc => Option.some.inj hc ▸ (by decide : Text.isDecimal ']' = false)
  simp only [index?, run?_append hd hs, Option.bind_eq_bind, Option.bind_some]
  rfl

theorem index?_eq_none {cs : List Char} (h : ∀ c, cs.head? = some c → Text.isDecimal c = false) :
    index? ('[' :: cs) = none := by
  simp only [index?, run?_eq_none h, Option.bind_eq_bind, Option.bind_none]

theorem bracketName?_append {before name text after : List Char} (hb : Blanks before) (hn : Quoted name text)
    (ha : Blanks after) (rest : List Char) :
    bracketName? ('[' :: (before ++ (text ++ (after ++ ']' :: rest)))) = some (name, rest) := by
  have hquote : ∀ c, (text ++ (after ++ ']' :: rest)).head? = some c → Text.isBlank c = false := by
    intro c hc
    cases hn with
    | quoted hq =>
      obtain rfl := Option.some.inj hc
      rcases hq with rfl | rfl <;> decide
  have hclose : ∀ c, (']' :: rest).head? = some c → Text.isBlank c = false :=
    fun c hc => Option.some.inj hc ▸ (by decide : Text.isBlank ']' = false)
  simp only [bracketName?, trimStart_append hb hquote, quoted?_append hn, Option.bind_eq_bind, Option.bind_some,
    trimStart_append ha hclose]
  rfl

/-! ### What is split off -/

theorem Run.of_run? {p : Char → Bool} {cs found rest : List Char} (h : run? p cs = some (found, rest)) :
    Run p found ∧ cs = found ++ rest := by
  unfold run? at h
  split at h
  next => cases h
  next hne =>
    obtain ⟨rfl, rfl⟩ := Prod.mk.inj (Option.some.inj h)
    exact ⟨⟨hne, fun _ hc => List.mem_takeWhile_imp hc⟩, List.takeWhile_append_dropWhile.symm⟩

theorem Quoted.of_quoted? {cs body rest : List Char} (h : quoted? cs = some (body, rest)) :
    ∃ text, Quoted body text ∧ cs = text ++ rest := by
  unfold quoted? at h
  split at h
  next q r =>
    split at h
    next hq =>
      split at h
      next c tail hdrop =>
        obtain ⟨rfl, rfl⟩ := Prod.mk.inj (Option.some.inj h)
        -- the quote is what stops the search
        have hc : c = q := by
          have := List.head?_dropWhile_not (· != q) r
          rw [hdrop] at this
          simpa using this
        have hbody : q ∉ r.takeWhile (· != q) := by
          intro hm
          simpa using List.mem_takeWhile_imp hm
        refine ⟨_, .quoted (by simpa using hq) hbody, ?_⟩
        have hr := List.takeWhile_append_dropWhile (p := (· != q)) (l := r)
        rw [hdrop, hc] at hr
        simp [hr]
      next => cases h
    next => cases h
  next => cases h

theorem BareDecimal.of_bareDecimal? {cs literal rest : List Char} (h : bareDecimal? cs = some (literal, rest)) :
    BareDecimal literal ∧ cs = literal ++ rest := by
  obtain ⟨sign, body, hsign, rfl, hrun⟩ : ∃ sign body, (sign = [] ∨ sign = ['-']) ∧ cs = sign ++ body ∧
      ∃ digits tail, run? Text.isDecimal body = some (digits, tail) ∧
        withFraction (sign ++ digits) tail = (literal, rest) := by
    unfold bareDecimal? at h
    split at h
    next sign body heq =>
      simp only [Option.bind_eq_bind, Option.bind_eq_some_iff] at h
      obtain ⟨⟨digits, tail⟩, hrun, htail⟩ := h
      have hfound := (some_withFraction (sign ++ digits) tail).symm.trans htail
      split at heq
      next r =>
        obtain ⟨rfl, rfl⟩ := Prod.mk.inj heq
        exact ⟨['-'], r, .inr rfl, rfl, digits, tail, hrun, Option.some.inj hfound⟩
      next =>
        obtain ⟨rfl, rfl⟩ := Prod.mk.inj heq
        exact ⟨[], cs, .inl rfl, rfl, digits, tail, hrun, Option.some.inj hfound⟩
  obtain ⟨digits, tail, hrun, hfraction⟩ := hrun
  obtain ⟨hd, rfl⟩ := Run.of_run? hrun
  unfold withFraction at hfraction
  split at hfraction
  next r =>
    split at hfraction
    next places tail hplaces =>
      obtain ⟨rfl, rfl⟩ := Prod.mk.inj hfraction
      obtain ⟨hp, rfl⟩ := Run.of_run? hplaces
      rw [List.append_assoc]
      exact ⟨.fraction hsign hd hp, by simp⟩
    next =>
      obtain ⟨rfl, rfl⟩ := Prod.mk.inj hfraction
      exact ⟨.whole hsign hd, by simp⟩
  next =>
    obtain ⟨rfl, rfl⟩ := Prod.mk.inj hfraction
    exact ⟨.whole hsign hd, by simp⟩

theorem Literal.of_comparison? {cs value rest : List Char} (h : comparison? cs = some (value, rest)) :
    ∃ equals space text, (equals = ['='] ∨ equals = ['=', '=']) ∧ Blanks space ∧ Literal value text ∧
      cs = equals ++ (space ++ (text ++ rest)) := by
  have hliteral : ∀ {body : List Char}, (quoted? (Text.trimStart body)).or (bareDecimal? (Text.trimStart body)) =
      some (value, rest) → ∃ space text, Blanks space ∧ Literal value text ∧ body = space ++ (text ++ rest) := by
    intro body hb
    obtain ⟨space, hspace, hbody⟩ := eq_append_trimStart body
    rcases Option.or_eq_some_iff.mp hb with hq | ⟨-, hd⟩
    · obtain ⟨text, htext, heq⟩ := Quoted.of_quoted? hq
      exact ⟨space, text, hspace, .quoted htext, by rw [← heq]; exact hbody⟩
    · obtain ⟨hbare, heq⟩ := BareDecimal.of_bareDecimal? hd
      exact ⟨space, value, hspace, .bare hbare, by rw [← heq]; exact hbody⟩
  unfold comparison? at h
  split at h
  next r =>
    simp only at h
    split at h
    next r =>
      obtain ⟨space, text, hs, ht, rfl⟩ := hliteral h
      exact ⟨['=', '='], space, text, .inr rfl, hs, ht, rfl⟩
    next =>
      obtain ⟨space, text, hs, ht, rfl⟩ := hliteral h
      exact ⟨['='], space, text, .inl rfl, hs, ht, rfl⟩
  next => cases h

theorem eq_of_filterEnd? {cs rest : List Char} (h : filterEnd? cs = some rest) :
    ∃ after, Blanks after ∧ cs = after ++ (")]".toList ++ rest) := by
  obtain ⟨after, ha, hcs⟩ := eq_append_trimStart cs
  refine ⟨after, ha, ?_⟩
  rw [filterEnd?] at h
  rw [Text.append_of_dropHead? h] at hcs
  exact hcs

theorem FilterText.of_filter? {cs name rest : List Char} {value? : Option (List Char)}
    (h : filter? cs = some ((name, value?), rest)) : ∃ text, FilterText name value? text ∧ cs = text ++ rest := by
  simp only [filter?, Option.bind_eq_bind, Option.bind_eq_some_iff] at h
  obtain ⟨opened, hopen, r, hat, ⟨found, tail⟩, hname, h⟩ := h
  obtain ⟨before, hb, hbefore⟩ := eq_append_trimStart opened
  obtain ⟨gap, hg, hgap⟩ := eq_append_trimStart tail
  obtain ⟨hn, hr⟩ := Run.of_run? hname
  have hcs : cs = "[?(".toList ++ (before ++ ("@.".toList ++ (found ++ tail))) := by
    rw [Text.append_of_dropHead? hopen, hbefore, Text.append_of_dropHead? hat, hr]
    rfl
  split at h
  next value after hvalue =>
    obtain ⟨end_, hend, h⟩ := Option.bind_eq_some_iff.mp h
    obtain ⟨hpair, rfl⟩ := Prod.mk.inj (Option.some.inj h)
    obtain ⟨rfl, rfl⟩ := Prod.mk.inj hpair
    obtain ⟨equals, space, text, he, hs, hl, hcomparison⟩ := Literal.of_comparison? hvalue
    obtain ⟨close, hc, rfl⟩ := eq_of_filterEnd? hend
    refine ⟨_, .compared hb hn hg he hs hl hc, ?_⟩
    rw [hcs, hgap, hcomparison]
    simp only [List.append_assoc]
  next =>
    obtain ⟨end_, hend, h⟩ := Option.bind_eq_some_iff.mp h
    obtain ⟨hpair, rfl⟩ := Prod.mk.inj (Option.some.inj h)
    obtain ⟨rfl, rfl⟩ := Prod.mk.inj hpair
    obtain ⟨close, hc, hend⟩ := eq_of_filterEnd? hend
    refine ⟨_, .present hb hn (hg.append hc), ?_⟩
    rw [hcs, hgap, hend]
    simp only [List.append_assoc]

theorem Run.of_index? {cs digits rest : List Char} (h : index? cs = some (digits, rest)) :
    Run Text.isDecimal digits ∧ cs = '[' :: (digits ++ ']' :: rest) := by
  unfold index? at h
  split at h
  next r =>
    obtain ⟨⟨found, tail⟩, hrun, h⟩ := Option.bind_eq_some_iff.mp h
    obtain ⟨hd, hr⟩ := Run.of_run? hrun
    rw [hr]
    clear hrun hr
    simp only at h
    split at h
    next =>
      obtain ⟨rfl, rfl⟩ := Prod.mk.inj (Option.some.inj h)
      exact ⟨hd, rfl⟩
    next => cases h
  next => cases h

theorem Quoted.of_bracketName? {cs name rest : List Char} (h : bracketName? cs = some (name, rest)) :
    ∃ before text after, Blanks before ∧ Quoted name text ∧ Blanks after ∧
      cs = '[' :: (before ++ (text ++ (after ++ ']' :: rest))) := by
  unfold bracketName? at h
  split at h
  next r =>
    obtain ⟨⟨found, tail⟩, hquoted, h⟩ := Option.bind_eq_some_iff.mp h
    obtain ⟨before, hb, hbefore⟩ := eq_append_trimStart r
    obtain ⟨after, ha, hafter⟩ := eq_append_trimStart tail
    obtain ⟨text, htext, htrim⟩ := Quoted.of_quoted? hquoted
    simp only at h
    split at h
    next more hclose =>
      obtain ⟨rfl, rfl⟩ := Prod.mk.inj (Option.some.inj h)
      refine ⟨before, text, after, hb, htext, ha, ?_⟩
      rw [hbefore, htrim, hafter, hclose]
    next => cases h
  next => cases h

end SiteReader.Path
