import SiteReader.Proofs.Excerpt.Place
import SiteReader.Proofs.Number.Numeral

/-!
# Written rules for pages

A step is written as its form, a name and the places of the matches to take and to leave out; a chain as its steps and perhaps
an attribute, with `@` between them.  What is written so is read back (`written_chain_read_back`), except for a selector in full
that looks like a short form when its places follow it, and for places with too many digits (`written_step_misread`).
-/

namespace SiteReader.Excerpt

/-! ### Places of integers -/

theorem arePlaces_map_ofInt (n? : Option Int) : ArePlaces (n?.map Numeral.ofInt) := by
  intro place hplace
  obtain ⟨n, -, rfl⟩ := Option.map_eq_some_iff.mp hplace
  obtain ⟨sign, hs, -, htext⟩ := Numeral.ofInt_eq n
  rw [htext]
  exact ⟨_, .signed hs Numeral.isDecimal_of_mem_toDigits Nat.toDigits_ne_nil⟩

theorem edged_afterMark {mark : Char} (hm : Text.isBlank mark = false) {place : List Char} (h : ArePlaces (some place)) :
    Text.Edged (afterMark mark (some place)) := by
  refine .of_forall (List.cons_ne_nil mark place) (List.forall_mem_cons.mpr ⟨hm, fun c hc => ?_⟩)
  rw [← Bool.not_eq_true]
  intro hb
  have hminus : c ≠ '-' := by
    rintro rfl
    exact absurd hb (by decide)
  exact h.not_mem hminus (Text.isDecimal_of_isBlank hb) hc

theorem edged_append_afterMark {cs : List Char} (h : Text.Edged cs) {mark : Char} (hm : Text.isBlank mark = false)
    {place? : Option (List Char)} (hp : ArePlaces place?) : Text.Edged (cs ++ afterMark mark place?) := by
  cases place? with
  | none => rwa [afterMark_none, List.append_nil]
  | some place => exact h.append (edged_afterMark hm hp)

/-! ### Steps -/

/-- The marks of the short forms. -/
def shortMarks : List String :=
  ["class.", "id.", "tag."]

/-- What a step selects by: the short forms for classes, an identifier and an element, and a selector in full. -/
inductive Form
  | classes (words : List (List Char))
  | identifier (name : List Char)
  | element (name : List Char)
  | plain (selector : List Char)

namespace Form

/-- The mark that a form is written with. -/
def mark : Form → String
  | .classes _ => "class."
  | .identifier _ => "id."
  | .element _ => "tag."
  | .plain _ => ""

/-- The name after the mark; classes are joined by single spaces. -/
def name : Form → List Char
  | .classes words => [' '].intercalate words
  | .identifier name | .element name | .plain name => name

/-- The selector that a form stands for. -/
def selector : Form → List Char
  | .classes words => words.flatMap fun word => '.' :: word
  | .identifier name => '#' :: name
  | .element name | .plain name => name

end Form

/-- A step as it is written: its form, the place of the match to take and the place of the match to leave out. -/
structure Part where
  form : Form
  pick? : Option Int
  drop? : Option Int

namespace Part

variable {part : Part}

/-- The text after the name. -/
def places (part : Part) : List Char :=
  afterMark '.' (part.pick?.map Numeral.ofInt) ++ afterMark '!' (part.drop?.map Numeral.ofInt)

/-- The text of a written step. -/
def text (part : Part) : List Char :=
  part.form.mark.toList ++ part.form.name ++ part.places

/-- The name of a step can be told from what is around it: it is trimmed, it has no mark of chains and no line end, and where
a place may follow it does not end like one. -/
structure IsWritten (part : Part) : Prop where
  edged : Text.Edged part.form.name
  words : ∀ words, part.form = .classes words → ∀ word ∈ words, word ≠ [] ∧ ∀ c ∈ word, Text.isBlank c = false
  no_mark : '@' ∉ part.form.name
  no_line : '\n' ∉ part.form.name
  no_place : part.pick? = none ∨ part.drop? = none → ¬ EndsInPlace part.form.name

/-- A selector in full does not look like a short form, its places included. -/
def StaysPlain (part : Part) : Prop :=
  ∀ selector, part.form = .plain selector → ∀ mark ∈ shortMarks, ¬ mark.toList <+: part.text

/-- The places have no more digits than an integer may have. -/
def IsWithinLimit (part : Part) : Prop :=
  ∀ n, n ∈ part.pick? ∨ n ∈ part.drop? → n.natAbs < 10 ^ Numeral.digitLimit

theorem IsWritten.shortest?_name (h : part.IsWritten) {least : Nat} (hle : least ≤ 1) :
    shortest? least (part.form.name ++ part.places) =
      some (part.form.name, part.pick?.map Numeral.ofInt, part.drop?.map Numeral.ofInt) := by
  have hpick := arePlaces_map_ofInt part.pick?
  have hdrop := arePlaces_map_ofInt part.drop?
  refine shortest?_append h.no_line (hle.trans (List.length_pos_iff.mpr h.edged.ne_nil))
    (places?_eq_some_iff.mpr ⟨rfl, hpick, hdrop⟩) fun front back hname hback => ?_
  refine places?_eq_none hname hback (fun hnone => h.no_place ?_) hdrop
  exact hnone.imp Option.map_eq_none_iff.mp Option.map_eq_none_iff.mp

theorem IsWritten.edged_selector (h : part.IsWritten) : Text.Edged part.form.selector := by
  have hedged := h.edged
  have hwords := h.words
  generalize part.form = form at hedged hwords
  cases form with
  | classes words =>
    refine .of_forall ?_ fun c hc => ?_
    · cases words with
      | nil => exact absurd rfl hedged.ne_nil
      | cons word others => exact List.cons_ne_nil _ _
    · obtain ⟨word, hword, hc⟩ := List.mem_flatMap.mp hc
      rcases List.mem_cons.mp hc with rfl | hc
      · decide
      · exact (hwords words rfl word hword).2 c hc
  | identifier name => exact Text.Edged.append (a := ['#']) (.of_forall (by decide) (Text.forall_mem (by decide))) hedged
  | element name | plain name => exact hedged

theorem IsWritten.edged_text (h : part.IsWritten) : Text.Edged part.text := by
  have hmarked : Text.Edged (part.form.mark.toList ++ part.form.name) := by
    have hedged := h.edged
    generalize part.form = form at hedged
    cases form with
    | plain name => exact hedged
    | classes => exact .append (a := "class.".toList) (.of_forall (by decide) (Text.forall_mem (by decide))) hedged
    | identifier => exact .append (a := "id.".toList) (.of_forall (by decide) (Text.forall_mem (by decide))) hedged
    | element => exact .append (a := "tag.".toList) (.of_forall (by decide) (Text.forall_mem (by decide))) hedged
  unfold text places
  rw [← List.append_assoc]
  exact edged_append_afterMark (edged_append_afterMark hmarked (by decide) (arePlaces_map_ofInt _)) (by decide)
    (arePlaces_map_ofInt _)

theorem IsWritten.not_mem_text (h : part.IsWritten) : '@' ∉ part.text := by
  have hmark : '@' ∉ part.form.mark.toList := by
    cases part.form <;> simp [Form.mark]
  have hplaces (mark : Char) (hm : '@' ≠ mark) (n? : Option Int) : '@' ∉ afterMark mark (n?.map Numeral.ofInt) :=
    not_mem_afterMark (arePlaces_map_ofInt n?) hm (by decide) (by decide)
  exact List.not_mem_append (List.not_mem_append hmark h.no_mark)
    (List.not_mem_append (hplaces '.' (by decide) _) (hplaces '!' (by decide) _))

/-- The selector and the places are found in the text. -/
theorem IsWritten.find_text (h : part.IsWritten) (hp : part.StaysPlain) : (shortForm? part.text).or (shortest? 0 part.text) =
    some (part.form.selector, part.pick?.map Numeral.ofInt, part.drop?.map Numeral.ofInt) := by
  have hname (least : Nat) (hle : least ≤ 1) := h.shortest?_name hle
  have htrim := Text.trim_of_edges h.edged
  have hwords := h.words
  unfold StaysPlain at hp
  unfold text at hp ⊢
  rw [List.append_assoc] at hp ⊢
  generalize part.form = form, part.places = places at hname htrim hwords hp
  rw [shortForm?_eq]
  cases form with
  | classes words =>
    have hfields : Text.fields Text.isBlank ([' '].intercalate words) = words :=
      Text.fields_intercalate (by decide) (hwords words rfl)
    have hfound := named?_append "class."
      (fun name => (Text.fields Text.isBlank name).flatMap fun word => '.' :: word) (hname 1 (Nat.le_refl 1))
    rw [show Form.mark (.classes words) = "class." from rfl, hfound]
    simp only [Form.name, hfields, Option.some_or, Form.selector]
  | identifier name =>
    have hfound := named?_append "id." (fun name => '#' :: Text.trim name) (hname 1 (Nat.le_refl 1))
    rw [show Form.mark (.identifier name) = "id." from rfl, hfound, named?_eq_none (by simp)]
    simp only [htrim, Option.none_or, Option.some_or]
    rfl
  | element name =>
    have hfound := named?_append "tag." Text.trim (hname 1 (Nat.le_refl 1))
    rw [show Form.mark (.element name) = "tag." from rfl, hfound, named?_eq_none (by simp), named?_eq_none (by simp)]
    simp only [htrim, Option.none_or, Option.some_or]
    rfl
  | plain name =>
    have hno (mark : String) (hm : mark ∈ shortMarks) (f : List Char → List Char) :=
      named?_eq_none (hp name rfl mark hm) f
    rw [hno "class." (by decide), hno "id." (by decide), hno "tag." (by decide)]
    exact hname 0 (Nat.zero_le 1)

/-- A written step is read as its selector, and its places are read as integers. -/
theorem IsWritten.parse_text (h : part.IsWritten) (hp : part.StaysPlain) : Step.parse (String.ofList part.text) = (do
    return ⟨String.ofList part.form.selector, ← readPlace (part.pick?.map Numeral.ofInt),
      ← readPlace (part.drop?.map Numeral.ofInt)⟩) := by
  unfold Step.parse
  rw [String.toList_ofList, Text.trim_of_edges h.edged_text]
  simp only [h.find_text hp, step, Text.trim_of_edges h.edged_selector]

end Part

theorem readPlace_ofInt (n : Int) : readPlace (some (Numeral.ofInt n)) =
    if n.natAbs < 10 ^ Numeral.digitLimit then .ok (some n) else .error .endlessNumeral := by
  rw [readPlace, Numeral.integer?_ofInt]
  by_cases hn : n.natAbs < 10 ^ Numeral.digitLimit
  · rw [if_pos hn, if_pos hn]
  · rw [if_neg hn, if_neg hn]

theorem readPlace_map_ofInt {n? : Option Int} (h : ∀ n ∈ n?, n.natAbs < 10 ^ Numeral.digitLimit) :
    readPlace (n?.map Numeral.ofInt) = .ok n? := by
  cases n? with
  | none => rfl
  | some n =>
    rw [Option.map_some, readPlace_ofInt, if_pos (h n rfl)]

/-! ### Chains -/

/-- Whether a character may stand in the name of an attribute. -/
def isAttributeChar (c : Char) : Bool :=
  Text.isAsciiLetter c || Text.isWord c || c = '-'

theorem isAttributeChar_of_mem {name : List Char} (h : isAttributeName name = true) :
    ∀ c ∈ name, isAttributeChar c = true := by
  unfold isAttributeName at h
  split at h
  next first rest =>
    rw [Bool.and_eq_true, List.all_eq_true] at h
    refine List.forall_mem_cons.mpr ⟨by simp [isAttributeChar, h.1], fun c hc => ?_⟩
    have hrest := h.2 c hc
    rw [isAttributeChar, Bool.or_assoc, hrest, Bool.or_true]
  next => cases h

/-- The name of an attribute is trimmed and without marks of chains. -/
theorem edged_of_isAttributeName {name : List Char} (h : isAttributeName name = true) : Text.Edged name ∧ '@' ∉ name := by
  have hchars := isAttributeChar_of_mem h
  constructor
  · refine .of_forall (fun hnil => by simp [hnil, isAttributeName] at h) fun c hc => ?_
    rw [← Bool.not_eq_true]
    intro hb
    have hno := Text.of_isBlank (P := fun c => isAttributeChar c = false) (by decide +kernel) hb
    rw [hchars c hc] at hno
    cases hno
  · exact fun hm => absurd (hchars '@' hm) (by decide +kernel)

/-- The parts of a chain are its steps, and its attribute if the last of several looks like one. -/
theorem Chain.parse_intercalate {texts : List (List Char)} {last : List Char}
    (h : ∀ text ∈ texts ++ [last], Text.Edged text ∧ '@' ∉ text) :
    Chain.parse (String.ofList (['@'].intercalate (texts ++ [last]))) =
      if texts ≠ [] ∧ isAttributeName last = true then ⟨texts.map String.ofList, some (String.ofList last)⟩
      else ⟨(texts ++ [last]).map String.ofList, none⟩ := by
  have hsplit : Text.splitOn ['@'] (['@'].intercalate (texts ++ [last])) = texts ++ [last] :=
    Text.splitOn_intercalate (by simp) fun text ht => (h text ht).2
  have hfilter : (texts ++ [last]).filter (fun part => !(Text.trim part).isEmpty) = texts ++ [last] := by
    rw [List.filter_eq_self]
    intro text ht
    obtain ⟨hedged, -⟩ := h text ht
    rw [Text.trim_of_edges hedged, List.isEmpty_eq_false_iff.mpr hedged.ne_nil]
    rfl
  have hlast : Text.trim last = last := Text.trim_of_edges (h last (by simp)).1
  have hlength : 1 < (texts ++ [last]).length ↔ texts ≠ [] := by
    rw [List.length_append, List.length_singleton, Nat.lt_add_left_iff_pos, List.length_pos_iff]
  unfold Chain.parse
  rw [String.toList_ofList, hsplit]
  simp only [hfilter, List.getLast?_concat, List.dropLast_concat, hlast, Bool.and_eq_true, decide_eq_true_eq, hlength]

/-- A chain is read as the texts of its steps and its attribute. -/
theorem Chain.parse_parts {parts : List Part} {attribute? : Option (List Char)} (hne : parts ≠ [])
    (hparts : ∀ part ∈ parts, part.IsWritten) (hname : ∀ name ∈ attribute?, isAttributeName name = true)
    (hlast : attribute? = none → parts.length = 1 ∨ ∀ part ∈ parts.getLast?, isAttributeName part.text = false) :
    Chain.parse (String.ofList (['@'].intercalate (parts.map Part.text ++ attribute?.toList))) =
      ⟨parts.map fun part => String.ofList part.text, attribute?.map String.ofList⟩ := by
  have htexts : ∀ text ∈ parts.map Part.text, Text.Edged text ∧ '@' ∉ text := by
    intro text ht
    obtain ⟨part, hpart, rfl⟩ := List.mem_map.mp ht
    exact ⟨(hparts part hpart).edged_text, (hparts part hpart).not_mem_text⟩
  cases attribute? with
  | some name =>
    have hread := @Chain.parse_intercalate (parts.map Part.text) name fun text ht =>
      (List.mem_append.mp ht).elim (htexts text) fun hl => List.mem_singleton.mp hl ▸ edged_of_isAttributeName (hname name rfl)
    rw [if_pos ⟨fun hnil => hne (List.map_eq_nil_iff.mp hnil), hname name rfl⟩, List.map_map] at hread
    exact hread
  | none =>
    obtain ⟨front, last, rfl⟩ := (List.eq_nil_or_concat parts).resolve_left hne
    rw [List.concat_eq_append] at hlast htexts ⊢
    have hmap : (front ++ [last]).map Part.text = front.map Part.text ++ [last.text] := List.map_append
    have hread := Chain.parse_intercalate (hmap ▸ htexts)
    rw [if_neg, ← hmap, List.map_map] at hread
    · rw [Option.toList_none, List.append_nil]
      exact hread
    · rintro ⟨hfront, hattribute⟩
      rcases hlast rfl with hone | hno
      · refine hfront (List.map_eq_nil_iff.mpr ?_)
        rw [List.length_append, List.length_singleton] at hone
        exact List.length_eq_zero_iff.mp (Nat.succ.inj hone)
      · rw [hno last List.getLast?_concat] at hattribute
        cases hattribute

/-- What is written as a chain of steps, with an attribute or without one, is read back: the chain as the texts of its steps
and the attribute, each step as its selector and its places. -/
theorem written_chain_read_back {parts : List Part} {attribute? : Option (List Char)} (hne : parts ≠ [])
    (hparts : ∀ part ∈ parts, part.IsWritten) (hplain : ∀ part ∈ parts, part.StaysPlain)
    (hlimit : ∀ part ∈ parts, part.IsWithinLimit) (hname : ∀ name ∈ attribute?, isAttributeName name = true)
    (hlast : attribute? = none → parts.length = 1 ∨ ∀ part ∈ parts.getLast?, isAttributeName part.text = false) :
    Chain.parse (String.ofList (['@'].intercalate (parts.map Part.text ++ attribute?.toList))) =
        ⟨parts.map fun part => String.ofList part.text, attribute?.map String.ofList⟩ ∧
      ∀ part ∈ parts, Step.parse (String.ofList part.text) =
        .ok ⟨String.ofList part.form.selector, part.pick?, part.drop?⟩ := by
  refine ⟨Chain.parse_parts hne hparts hname hlast, fun part hpart => ?_⟩
  have hpick := readPlace_map_ofInt fun n hn => hlimit part hpart n (.inl hn)
  have hdrop := readPlace_map_ofInt fun n hn => hlimit part hpart n (.inr hn)
  rw [(hparts part hpart).parse_text (hplain part hpart), hpick, hdrop]
  rfl

theorem not_endsInPlace {cs : List Char} {c : Char} (h : cs.getLast? = some c) (hc : Text.isDecimal c = false) :
    ¬ EndsInPlace cs := by
  rintro ⟨front, mark, digits, place, rfl, -, ⟨hs, hd, hne⟩⟩
  rw [← List.cons_append, ← List.append_assoc, List.getLast?_append, List.getLast?_eq_some_getLast hne] at h
  have hdigit := hd _ (List.getLast_mem hne)
  rw [Option.some.inj h, hc] at hdigit
  cases hdigit

theorem written_chain_read_back_links :
    Chain.parse "class.list item.-1@a[href]!0@href" = ⟨["class.list item.-1", "a[href]!0"], some "href"⟩ ∧
      Step.parse "class.list item.-1" = .ok ⟨".list.item", some (-1), none⟩ ∧
      Step.parse "a[href]!0" = .ok ⟨"a[href]", none, some 0⟩ := by
  have hwords : ∀ words, Form.classes ["list".toList, "item".toList] = .classes words →
      ∀ word ∈ words, word ≠ [] ∧ ∀ c ∈ word, Text.isBlank c = false := by
    rintro _ ⟨⟩
    refine List.forall_mem_cons.mpr ⟨⟨by decide, Text.forall_mem (by decide)⟩, List.forall_mem_singleton.mpr ?_⟩
    exact ⟨by decide, Text.forall_mem (by decide)⟩
  have hitems : (Part.mk (.classes ["list".toList, "item".toList]) (some (-1)) none).IsWritten :=
    ⟨.of_ends rfl rfl (by decide : Text.isBlank 'l' = false) (by decide : Text.isBlank 'm' = false), hwords, by decide, by decide,
      fun _ => not_endsInPlace (c := 'm') rfl (by decide)⟩
  have hlinks : (Part.mk (.plain "a[href]".toList) none (some 0)).IsWritten :=
    ⟨.of_ends rfl rfl (by decide : Text.isBlank 'a' = false) (by decide : Text.isBlank ']' = false), nofun, by decide, by decide,
      fun _ => not_endsInPlace (c := ']') rfl (by decide)⟩
  have hlimit {n : Int} (hn : n.natAbs ≤ 1) : n.natAbs < 10 ^ Numeral.digitLimit :=
    Nat.lt_of_le_of_lt hn (Nat.one_lt_pow (by decide) (by decide))
  have hone (form : Form) : (Part.mk form (some (-1)) none).IsWithinLimit := fun n hn => by
    obtain rfl : -1 = n := by simpa using hn
    exact hlimit (by decide)
  have hzero (form : Form) : (Part.mk form none (some 0)).IsWithinLimit := fun n hn => by
    obtain rfl : 0 = n := by simpa using hn
    exact hlimit (by decide)
  have htext1 : (Part.mk (.classes ["list".toList, "item".toList]) (some (-1)) none).text = "class.list item.-1".toList := by
    decide
  have htext2 : (Part.mk (.plain "a[href]".toList) none (some 0)).text = "a[href]!0".toList := by
    decide
  obtain ⟨hchain, hsteps⟩ := @written_chain_read_back
    [⟨.classes ["list".toList, "item".toList], some (-1), none⟩, ⟨.plain "a[href]".toList, none, some 0⟩]
    (some "href".toList) (List.cons_ne_nil _ _)
    (List.forall_mem_cons.mpr ⟨hitems, List.forall_mem_singleton.mpr hlinks⟩)
    (List.forall_mem_cons.mpr ⟨nofun, List.forall_mem_singleton.mpr (by rintro _ ⟨⟩; rw [htext2]; decide)⟩)
    (List.forall_mem_cons.mpr ⟨hone _, List.forall_mem_singleton.mpr (hzero _)⟩) (by rintro _ ⟨⟩; decide) nofun
  rw [List.forall_mem_cons, List.forall_mem_singleton, htext1, htext2] at hsteps
  simp only [List.map_cons, List.map_nil, htext1, htext2] at hchain
  exact ⟨hchain, hsteps⟩

/-- Not all steps are read back: a selector in full looks like a short form if it is the word of one and a place to take
follows, and places may have too many digits. -/
theorem written_step_misread :
    ((Part.mk (.plain "tag".toList) (some 0) none).IsWritten ∧
      (∀ mark ∈ shortMarks, ¬ mark.toList <+: "tag".toList) ∧
      Step.parse (String.ofList (Part.mk (.plain "tag".toList) (some 0) none).text) = .ok ⟨"0", none, none⟩) ∧
    ((Part.mk (.element "p".toList) (some (10 ^ Numeral.digitLimit : Nat)) none).IsWritten ∧
      Step.parse (String.ofList (Part.mk (.element "p".toList) (some (10 ^ Numeral.digitLimit : Nat)) none).text) =
        .error .endlessNumeral) := by
  have htag : (Part.mk (.plain "tag".toList) (some 0) none).IsWritten :=
    ⟨.of_ends rfl rfl (by decide : Text.isBlank 't' = false) (by decide : Text.isBlank 'g' = false), nofun, by decide, by decide,
      fun _ => not_endsInPlace (c := 'g') rfl (by decide)⟩
  have hlong : (Part.mk (.element "p".toList) (some (10 ^ Numeral.digitLimit : Nat)) none).IsWritten :=
    ⟨.of_ends rfl rfl (by decide : Text.isBlank 'p' = false) (by decide : Text.isBlank 'p' = false), nofun, by decide, by decide,
      fun _ => not_endsInPlace (c := 'p') rfl (by decide)⟩
  have htext : (Part.mk (.plain "tag".toList) (some 0) none).text = "tag.0".toList := by decide
  refine ⟨⟨htag, by decide, ?_⟩, hlong, ?_⟩
  · rw [htext]
    rfl
  · rw [hlong.parse_text nofun, Option.map_some, readPlace_ofInt, Int.natAbs_natCast, if_neg (Nat.lt_irrefl _)]
    rfl

end SiteReader.Excerpt
