import SiteReader.Excerpt.Basic
import SiteReader.Proofs.Text.Mark

/-!
# Places in steps

A step ends with the places of the matches to take and to leave out.  They are read where they are written, and nowhere else
(`places?_eq_some_iff`); the text before them is the shortest one that they follow (`shortest?_append`).
-/

namespace SiteReader.Excerpt

/-! ### Places -/

/-- The text of a place after its mark: digits, with a minus sign before them if there is one. -/
inductive PlaceText : List Char → List Char → Prop
  | signed {sign digits : List Char} (hs : sign = [] ∨ sign = ['-']) (hd : ∀ c ∈ digits, Text.isDecimal c = true)
      (hne : digits ≠ []) : PlaceText digits (sign ++ digits)

/-- The minus sign at the start of a text, if there is one. -/
def minus (cs : List Char) : List Char :=
  match cs with
  | '-' :: _ => ['-']
  | _ => []

theorem minus_append (cs : List Char) : (minus cs = [] ∨ minus cs = ['-']) ∧ cs = minus cs ++ cs.drop (minus cs).length := by
  unfold minus
  split
  next => exact ⟨.inr rfl, rfl⟩
  next => exact ⟨.inl rfl, rfl⟩

theorem place?_cons (mark c : Char) (cs : List Char) :
    place? mark (c :: cs) =
      let digits := (cs.drop (minus cs).length).takeWhile Text.isDecimal
      if c = mark && !digits.isEmpty then (some (minus cs ++ digits), cs.drop ((minus cs).length + digits.length))
      else (none, c :: cs) := rfl

theorem place?_eq_some {mark : Char} {cs place rest : List Char} (h : place? mark cs = (some place, rest)) :
    cs = mark :: (place ++ rest) ∧ ∃ digits, PlaceText digits place := by
  cases cs with
  | nil => cases h
  | cons c cs =>
    obtain ⟨hs, hcs⟩ := minus_append cs
    rw [place?_cons] at h
    generalize minus cs = sign, cs.drop (minus cs).length = body at h hs hcs
    subst hcs
    dsimp only at h
    split at h
    next hc =>
      obtain ⟨hplace, rfl⟩ := Prod.mk.inj h
      obtain rfl := Option.some.inj hplace
      rw [Bool.and_eq_true, decide_eq_true_eq, Bool.not_eq_true', List.isEmpty_eq_false_iff] at hc
      refine ⟨?_, body.takeWhile Text.isDecimal, .signed hs (fun d hd => List.mem_takeWhile_imp hd) hc.2⟩
      have hdigits := List.prefix_iff_eq_append.mp (List.takeWhile_prefix (l := body) Text.isDecimal)
      rw [hc.1, List.append_assoc, ← List.drop_drop, List.drop_left, hdigits]
    next => cases h

theorem place?_eq_none {mark : Char} {cs rest : List Char} (h : place? mark cs = (none, rest)) : rest = cs := by
  cases cs with
  | nil => exact (Prod.mk.inj h).2.symm
  | cons c cs =>
    rw [place?_cons] at h
    dsimp only at h
    split at h
    next => cases h
    next => exact (Prod.mk.inj h).2.symm

/-! ### Written places -/

/-- A place after its mark; nothing if there is no place. -/
def afterMark (mark : Char) : Option (List Char) → List Char
  | none => []
  | some place => mark :: place

@[simp] theorem afterMark_none (mark : Char) : afterMark mark none = [] := rfl

@[simp] theorem afterMark_some (mark : Char) (place : List Char) : afterMark mark (some place) = mark :: place := rfl

/-- The text of a place, if there is one. -/
def ArePlaces (place? : Option (List Char)) : Prop :=
  ∀ place ∈ place?, ∃ digits, PlaceText digits place

theorem PlaceText.mem_cases {digits place : List Char} (h : PlaceText digits place) {c : Char} (hc : c ∈ place) :
    c = '-' ∨ Text.isDecimal c = true := by
  cases h with
  | signed hs hd hne =>
    rcases List.mem_append.mp hc with hc | hc
    · rcases hs with rfl | rfl
      · cases hc
      · exact .inl (List.mem_singleton.mp hc)
    · exact .inr (hd c hc)

theorem ArePlaces.not_mem {place : List Char} (h : ArePlaces (some place)) {c : Char} (hc : c ≠ '-')
    (hd : Text.isDecimal c = false) : c ∉ place := by
  obtain ⟨digits, hplace⟩ := h place rfl
  intro hmem
  rcases hplace.mem_cases hmem with rfl | hdigit
  · exact hc rfl
  · rw [hd] at hdigit
    cases hdigit

theorem not_mem_afterMark {mark c : Char} {place? : Option (List Char)} (h : ArePlaces place?) (hm : c ≠ mark)
    (hc : c ≠ '-') (hd : Text.isDecimal c = false) : c ∉ afterMark mark place? := by
  cases place? with
  | none => exact List.not_mem_nil
  | some place => exact List.not_mem_cons_of_ne_of_not_mem hm (h.not_mem hc hd)

theorem minus_signed {sign digits rest : List Char} (hs : sign = [] ∨ sign = ['-'])
    (hd : ∀ c ∈ digits, Text.isDecimal c = true) (hne : digits ≠ []) : minus (sign ++ (digits ++ rest)) = sign := by
  rcases hs with rfl | rfl
  · obtain ⟨d, others, rfl⟩ := List.exists_cons_of_ne_nil hne
    unfold minus
    split
    next heq =>
      obtain ⟨rfl, -⟩ := List.cons.inj heq
      exact absurd (hd '-' List.mem_cons_self) (by decide)
    next => rfl
  · rfl

theorem place?_append {mark : Char} {digits place rest : List Char} (h : PlaceText digits place)
    (hs : ∀ c, rest.head? = some c → Text.isDecimal c = false) :
    place? mark (mark :: (place ++ rest)) = (some place, rest) := by
  cases h with
  | @signed sign digits hsign hd hne =>
    have hempty : digits.isEmpty = false := List.isEmpty_eq_false_iff.mpr hne
    rw [List.append_assoc, place?_cons, minus_signed hsign hd hne, List.drop_left]
    simp only [Text.takeWhile_append_of_stop hd hs, hempty, decide_true, Bool.not_false, Bool.and_self, if_true]
    rw [← List.drop_drop, List.drop_left, List.drop_left]

theorem place?_of_head_ne {mark : Char} {cs : List Char} (h : cs.head? ≠ some mark) : place? mark cs = (none, cs) := by
  cases cs with
  | nil => rfl
  | cons c cs =>
    have hc : c ≠ mark := fun heq => h (congrArg some heq)
    rw [place?_cons]
    simp [hc]

theorem place?_afterMark {mark : Char} {place? : Option (List Char)} {rest : List Char} (h : ArePlaces place?)
    (hs : ∀ c, rest.head? = some c → Text.isDecimal c = false ∧ c ≠ mark) :
    Excerpt.place? mark (afterMark mark place? ++ rest) = (place?, rest) := by
  cases place? with
  | none => exact place?_of_head_ne fun hc => (hs mark hc).2 rfl
  | some place =>
    obtain ⟨digits, hplace⟩ := h place rfl
    exact place?_append hplace fun c hc => (hs c hc).1

/-- Places are read at the end of a step if and only if they are written there. -/
theorem places?_eq_some_iff {cs : List Char} {pick drop : Option (List Char)} :
    places? cs = some (pick, drop) ↔
      cs = afterMark '.' pick ++ afterMark '!' drop ∧ ArePlaces pick ∧ ArePlaces drop := by
  have hplace {mark : Char} {cs rest : List Char} {found : Option (List Char)} (h : place? mark cs = (found, rest)) :
      cs = afterMark mark found ++ rest ∧ ArePlaces found := by
    cases found with
    | none => exact ⟨(place?_eq_none h).symm, nofun⟩
    | some place =>
      obtain ⟨hcs, hdigits⟩ := place?_eq_some h
      exact ⟨hcs, fun _ hm => Option.some.inj hm ▸ hdigits⟩
  constructor
  · intro h
    unfold places? at h
    rcases hpick : place? '.' cs with ⟨first, rest⟩
    rcases hdrop : place? '!' rest with ⟨second, last⟩
    simp only [hpick, hdrop] at h
    split at h
    next hlast =>
      obtain ⟨rfl, rfl⟩ := Prod.mk.inj (Option.some.inj h)
      obtain ⟨rfl, hpicked⟩ := hplace hpick
      obtain ⟨rfl, hdropped⟩ := hplace hdrop
      exact ⟨by rw [List.isEmpty_iff.mp hlast, List.append_nil], hpicked, hdropped⟩
    next => cases h
  · rintro ⟨rfl, hpick, hdrop⟩
    have hmark : ∀ c, (afterMark '!' drop).head? = some c → Text.isDecimal c = false ∧ c ≠ '.' := by
      intro c hc
      cases drop with
      | none => cases hc
      | some place =>
        obtain rfl := Option.some.inj hc
        decide
    have hlast : place? '!' (afterMark '!' drop ++ []) = (drop, []) := place?_afterMark hdrop nofun
    rw [List.append_nil] at hlast
    unfold places?
    rw [place?_afterMark hpick hmark]
    simp only [hlast]
    rfl

/-- A text ends like a step with a place. -/
def EndsInPlace (cs : List Char) : Prop :=
  ∃ front mark digits place, cs = front ++ mark :: place ∧ (mark = '.' ∨ mark = '!') ∧ PlaceText digits place

/-- The point stands nowhere in written places but at their start. -/
theorem point_not_mem_tail {pick drop : Option (List Char)} (hpick : ArePlaces pick) (hdrop : ArePlaces drop) :
    '.' ∉ (afterMark '.' pick ++ afterMark '!' drop).tail := by
  have hdropped : '.' ∉ afterMark '!' drop := not_mem_afterMark hdrop (by decide) (by decide) (by decide)
  cases pick with
  | none => exact fun hm => hdropped (List.mem_of_mem_tail hm)
  | some place => exact List.not_mem_append (hpick.not_mem (by decide) (by decide)) hdropped

/-- A step is not cut within its name, unless it lacks a place and its name ends like a place. -/
theorem places?_eq_none {name front back : List Char} {pick drop : Option (List Char)} (hname : name = front ++ back)
    (hback : back ≠ []) (hopen : pick = none ∨ drop = none → ¬ EndsInPlace name) (hdrop : ArePlaces drop) :
    places? (back ++ (afterMark '.' pick ++ afterMark '!' drop)) = none := by
  rw [Option.eq_none_iff_forall_ne_some]
  rintro ⟨first, second⟩ hfound
  obtain ⟨heq, hfirst, hsecond⟩ := places?_eq_some_iff.mp hfound
  -- a last place that is left within the name
  have hend {mark : Char} (body : List Char) {place? : Option (List Char)} (hm : mark = '.' ∨ mark = '!')
      (hplace : ArePlaces place?) (hsome : afterMark mark place? ≠ []) (hb : back = body ++ afterMark mark place?) :
      EndsInPlace name := by
    cases place? with
    | none => exact absurd rfl hsome
    | some place =>
      obtain ⟨digits, hdigits⟩ := hplace place rfl
      exact ⟨front ++ body, mark, digits, place, by rw [hname, hb, List.append_assoc]; rfl, hm, hdigits⟩
  cases pick with
  | some place =>
    -- the point before the place to take is not the first character of the rest
    obtain ⟨b, others, rfl⟩ := List.exists_cons_of_ne_nil hback
    refine point_not_mem_tail hfirst hsecond ?_
    rw [← heq]
    simp
  | none =>
    refine hopen (.inl rfl) ?_
    cases drop with
    | none =>
      rw [afterMark_none, afterMark_none, List.append_nil, List.append_nil] at heq
      cases second with
      | none =>
        rw [afterMark_none, List.append_nil] at heq
        exact hend [] (.inl rfl) hfirst (heq ▸ hback) heq
      | some place => exact hend _ (.inr rfl) hsecond (List.cons_ne_nil _ _) heq
    | some place =>
      -- both texts have their only `!` before the place to leave out
      have hcut := Text.cutAtLast?_append back (hdrop.not_mem (c := '!') (by decide) (by decide))
      rw [afterMark_none, afterMark_some, List.nil_append] at heq
      rw [heq] at hcut
      cases second with
      | none =>
        have hno : '!' ∉ afterMark '.' first := not_mem_afterMark hfirst (by decide) (by decide) (by decide)
        rw [afterMark_none, List.append_nil, Text.cutAtLast?_of_not_mem hno] at hcut
        cases hcut
      | some other =>
        rw [afterMark_some, Text.cutAtLast?_append _ (hsecond.not_mem (by decide) (by decide))] at hcut
        obtain ⟨rfl, -⟩ := Prod.mk.inj (Option.some.inj hcut)
        exact hend [] (.inl rfl) hfirst hback rfl

/-! ### Places inside a text -/

/-- A text has a place after a mark. -/
structure PlaceIn (cs place : List Char) : Prop where
  exists_append : ∃ front mark back, cs = front ++ mark :: (place ++ back) ∧ (mark = '.' ∨ mark = '!')
  exists_digits : ∃ digits, PlaceText digits place

theorem PlaceIn.append {cs place : List Char} (h : PlaceIn cs place) (front : List Char) : PlaceIn (front ++ cs) place := by
  obtain ⟨⟨before, mark, back, rfl, hmark⟩, hdigits⟩ := h
  exact ⟨⟨front ++ before, mark, back, by rw [List.append_assoc], hmark⟩, hdigits⟩

/-- The places that a step is read with are in its text. -/
theorem PlaceIn.of_places? {cs : List Char} {pick drop : Option (List Char)} (h : places? cs = some (pick, drop)) :
    (∀ place ∈ pick, PlaceIn cs place) ∧ ∀ place ∈ drop, PlaceIn cs place := by
  obtain ⟨rfl, hpick, hdrop⟩ := places?_eq_some_iff.mp h
  constructor
  · rintro place rfl
    exact ⟨⟨[], '.', afterMark '!' drop, rfl, .inl rfl⟩, hpick place rfl⟩
  · rintro place rfl
    exact ⟨⟨afterMark '.' pick, '!', [], by simp, .inr rfl⟩, hdrop place rfl⟩

/-! ### The text before the places -/

theorem shortest?_eq_some {least : Nat} {cs text : List Char} {pick drop : Option (List Char)}
    (h : shortest? least cs = some (text, pick, drop)) : ∃ tail, cs = text ++ tail ∧ places? tail = some (pick, drop) := by
  have hcons {c : Char} {least : Nat} {rest text : List Char} (ih : ∀ {least : Nat} {text : List Char},
      shortest? least rest = some (text, pick, drop) → ∃ tail, rest = text ++ tail ∧ places? tail = some (pick, drop))
      (h : (shortest? least rest).map (fun found => (c :: found.1, found.2)) = some (text, pick, drop)) :
      ∃ tail, c :: rest = text ++ tail ∧ places? tail = some (pick, drop) := by
    obtain ⟨⟨front, places⟩, hfront, heq⟩ := Option.map_eq_some_iff.mp h
    obtain ⟨rfl, rfl⟩ : c :: front = text ∧ places = (pick, drop) := Prod.mk.inj heq
    obtain ⟨tail, rfl, htail⟩ := ih hfront
    exact ⟨tail, rfl, htail⟩
  induction cs generalizing least text with
  | nil =>
    cases least with
    | succ => cases h
    | zero =>
      rw [shortest?] at h
      split at h
      next hp =>
        obtain ⟨rfl, rfl, rfl⟩ : [] = text ∧ _ = pick ∧ _ = drop := by simpa using h
        exact ⟨[], rfl, hp⟩
      next => cases h
  | cons c rest ih =>
    cases least with
    | succ least =>
      rw [shortest?] at h
      split at h
      next => cases h
      next => exact hcons ih h
    | zero =>
      rw [shortest?] at h
      split at h
      next hp =>
        obtain ⟨rfl, rfl, rfl⟩ : [] = text ∧ _ = pick ∧ _ = drop := by simpa using h
        exact ⟨_, rfl, hp⟩
      next =>
        split at h
        next => cases h
        next => exact hcons ih h

/-- The text before the places is found if no shorter one would do. -/
theorem shortest?_append {least : Nat} {name tail : List Char} {pick drop : Option (List Char)} (hline : '\n' ∉ name)
    (hle : least ≤ name.length) (htail : places? tail = some (pick, drop))
    (hfirst : ∀ front back, name = front ++ back → back ≠ [] → places? (back ++ tail) = none) :
    shortest? least (name ++ tail) = some (name, pick, drop) := by
  induction name generalizing least with
  | nil =>
    obtain rfl : least = 0 := Nat.le_zero.mp hle
    rw [List.nil_append, shortest?.eq_def]
    simp only [htail]
  | cons c rest ih =>
    rw [List.mem_cons, not_or] at hline
    have hrest (least : Nat) (hle : least ≤ rest.length) := ih hline.2 hle fun front back hname =>
      hfirst (c :: front) back (congrArg _ hname)
    cases least with
    | zero =>
      have hnone : places? (c :: (rest ++ tail)) = none := hfirst [] (c :: rest) rfl (List.cons_ne_nil c rest)
      rw [List.cons_append, shortest?.eq_def]
      simp only [hnone, if_neg (Ne.symm hline.1), hrest 0 (Nat.zero_le _), Option.map_some]
    | succ least =>
      rw [List.cons_append, shortest?, if_neg (Ne.symm hline.1), hrest least (Nat.le_of_succ_le_succ hle)]
      rfl

/-! ### Short forms -/

/-- The selector of a short form, by the name after its mark. -/
def named? (mark : String) (f : List Char → List Char) (cs : List Char) :
    Option (List Char × Option (List Char) × Option (List Char)) := do
  let (name, places) ← shortest? 1 (← Text.dropHead? mark.toList cs)
  return (f name, places)

theorem shortForm?_eq (cs : List Char) : shortForm? cs =
    ((named? "class." (fun name => (Text.fields Text.isBlank name).flatMap fun word => '.' :: word) cs).or
      (named? "id." (fun name => '#' :: Text.trim name) cs)).or (named? "tag." Text.trim cs) := rfl

theorem named?_append (mark : String) (f : List Char → List Char) {cs name : List Char}
    {places : Option (List Char) × Option (List Char)} (h : shortest? 1 cs = some (name, places)) :
    named? mark f (mark.toList ++ cs) = some (f name, places) := by
  unfold named?
  rw [Text.dropHead?_append]
  simp only [Option.bind_eq_bind, Option.bind_some, h]
  rfl

theorem named?_eq_none {mark : String} {cs : List Char} (h : ¬ mark.toList <+: cs) (f : List Char → List Char) :
    named? mark f cs = none := by
  unfold named?
  rw [Text.dropHead?_eq_none h]
  rfl

theorem named?_eq_some {mark : String} {f : List Char → List Char} {cs selector : List Char} {pick drop : Option (List Char)}
    (h : named? mark f cs = some (selector, pick, drop)) :
    ∃ front tail, cs = front ++ tail ∧ places? tail = some (pick, drop) := by
  obtain ⟨rest, hrest, h⟩ := Option.bind_eq_some_iff.mp h
  obtain ⟨⟨name, places⟩, hname, h⟩ := Option.bind_eq_some_iff.mp h
  obtain ⟨-, rfl⟩ : f name = selector ∧ places = (pick, drop) := Prod.mk.inj (Option.some.inj h)
  obtain ⟨tail, rfl, htail⟩ := shortest?_eq_some hname
  exact ⟨mark.toList ++ name, tail, by rw [Text.append_of_dropHead? hrest, List.append_assoc], htail⟩

theorem shortForm?_eq_some {cs selector : List Char} {pick drop : Option (List Char)}
    (h : shortForm? cs = some (selector, pick, drop)) : ∃ front tail, cs = front ++ tail ∧ places? tail = some (pick, drop) := by
  rw [shortForm?_eq] at h
  rcases Option.or_eq_some_iff.mp h with h | ⟨-, h⟩
  · rcases Option.or_eq_some_iff.mp h with h | ⟨-, h⟩
    · exact named?_eq_some h
    · exact named?_eq_some h
  · exact named?_eq_some h

end SiteReader.Excerpt
