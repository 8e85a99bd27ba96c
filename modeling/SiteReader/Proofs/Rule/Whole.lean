import SiteReader.Proofs.Rule.Reading
import SiteReader.Proofs.Text.Case

/-!
# Paths as rules

A path is split like any other text, also inside the quotes of its names and literals.  Read as a rule it is this one path if
and only if it has none of the marks that rules are split at (`path_is_rule`), and then the rule resolves to what the path
leads to.
-/

namespace SiteReader

namespace Rule

/-! ### Texts that are not split -/

/-- A text that has no mark between alternatives and no script at its end. -/
structure IsWhole (cs : List Char) : Prop where
  ampersands : ¬ "&&".toList <:+: cs
  bars : ¬ "||".toList <:+: cs
  block : ∀ before script, cs ≠ before ++ ("<js>".toList ++ (script ++ "</js>".toList))
  tail : Text.cutAnyCase? "@js:".toList cs = none

theorem IsWhole.of_forall {cs : List Char}
    (h : ∀ c ∈ cs, c ≠ '&' ∧ c ≠ '|' ∧ c ≠ '<' ∧ Text.sameLetter '@' c = false) : IsWhole cs where
  ampersands hpart := (h '&' (hpart.subset List.mem_cons_self)).1 rfl
  bars hpart := (h '|' (hpart.subset List.mem_cons_self)).2.1 rfl
  block before _ hcs := (h '<' (hcs ▸ List.mem_append_right before List.mem_cons_self)).2.2.1 rfl
  tail := Text.cutAnyCase?_of_forall (fun c hc => (h c hc).2.2.2) _

theorem cutBlock?_eq_none_iff {cs : List Char} (h : Text.trimEnd cs = cs) :
    cutBlock? cs = none ↔ ∀ before script, cs ≠ before ++ ("<js>".toList ++ (script ++ "</js>".toList)) := by
  unfold cutBlock?
  rw [h]
  constructor
  · rintro hnone before script rfl
    have hbody : before ++ ("<js>".toList ++ (script ++ "</js>".toList)) =
        before ++ ("<js>".toList ++ script) ++ "</js>".toList := by
      rw [List.append_assoc, List.append_assoc]
    rw [hbody, Text.dropTail?_append] at hnone
    exact Text.cut?_eq_none_iff.mp hnone ⟨before, script, List.append_assoc _ _ _⟩
  · intro hblock
    cases hbody : Text.dropTail? "</js>".toList cs with
    | none => rfl
    | some body =>
      refine Text.cut?_eq_none_iff.mpr ?_
      rintro ⟨before, script, rfl⟩
      refine hblock before script ?_
      rw [Text.append_of_dropTail? hbody]
      simp only [List.append_assoc]

theorem splitScriptChars_snd_eq_none_iff {cs : List Char} :
    (splitScriptChars cs).2 = none ↔ cutBlock? cs = none ∧ Text.cutAnyCase? "@js:".toList cs = none := by
  unfold splitScriptChars
  cases cutBlock? cs with
  | some found => exact iff_of_false nofun (fun h => nomatch h.1)
  | none =>
    rw [Option.none_or]
    cases Text.cutAnyCase? "@js:".toList cs with
    | some found => exact iff_of_false nofun (fun h => nomatch h.2)
    | none => exact iff_of_true rfl ⟨rfl, rfl⟩

/-- What stands between two marks is shorter than the whole. -/
theorem length_lt_of_mem_pieces {mark cs : List Char} (hne : mark ≠ []) (h : mark <:+: cs) :
    ∀ piece ∈ pieces mark cs, piece.length < cs.length := by
  intro piece hp
  obtain ⟨part, hpart, rfl⟩ := List.mem_map.mp (List.mem_filter.mp hp).1
  exact Nat.lt_of_le_of_lt (Text.trim_isInfix part).length_le (Text.length_lt_of_mem_splitOn hne h part hpart)

theorem splitAlternativesChars_of_mark {mark cs : List Char}
    (h : mark = "&&".toList ∨ mark = "||".toList ∧ ¬ "&&".toList <:+: cs) (hm : mark <:+: cs) :
    splitAlternativesChars cs = pieces mark cs := by
  unfold splitAlternativesChars pieces
  rcases h with rfl | ⟨rfl, hother⟩
  · rw [if_pos (Text.hasMark_iff.mpr hm)]
  · rw [if_neg (Text.hasMark_iff.not.mpr hother), if_pos (Text.hasMark_iff.mpr hm)]

theorem splitAlternativesChars_of_isWhole {cs : List Char} (h : IsWhole cs) (he : Text.Edged cs) :
    splitAlternativesChars cs = [cs] := by
  unfold splitAlternativesChars
  rw [if_neg (Text.hasMark_iff.not.mpr h.ampersands), if_neg (Text.hasMark_iff.not.mpr h.bars)]
  simp [Text.trim_of_edges he, he.ne_nil]

/-! ### Paths -/

theorem dropMarker_of_root {cs rest : List Char} (h : Text.trim cs = '$' :: rest) :
    dropMarker "@json:".toList cs = '$' :: rest := by
  have hmarker : Text.dropHeadAnyCase? "@json:".toList ('$' :: rest) = none :=
    if_neg (by decide : ¬ Text.sameLetter '@' '$' = true)
  unfold dropMarker
  simp only [h, hmarker, Option.getD_none]
  rw [← h, Text.trim_trim]

theorem isBareKey_of_root (rest : List Char) : isBareKey ('$' :: rest) = false := by
  have hroot : Text.isWord '$' = false := by decide +kernel
  simp [isBareKey, hroot]

variable {text : String} {path : Path}

theorem exists_root (h : Path.parse text = .ok path) : ∃ rest, Text.trim text.toList = '$' :: rest := by
  obtain ⟨-, hpath⟩ := Path.PathText.of_parse h
  generalize Text.trim text.toList = cs, path.segments = segments at hpath
  cases hpath with
  | document => exact ⟨_, rfl⟩
  | segments => exact ⟨_, rfl⟩

theorem parse_eq_ok_iff : Path.parse text = .ok path ↔ (Path.parse text).toOption = some path := by
  cases Path.parse text <;> simp [Except.toOption]

theorem parse_trimmed_of_ok (h : Path.parse text = .ok path) : Path.parse (trimmed text) = .ok path := by
  rw [parse_eq_ok_iff] at h ⊢
  rw [parse_trimmed, h]

theorem splitScriptChars_of_isWhole {cs : List Char} (h : IsWhole cs) (he : Text.Edged cs) :
    splitScriptChars cs = (cs, none) := by
  have hend : Text.trimEnd cs = cs := Text.trimRight_of_last he.last
  unfold splitScriptChars
  rw [(cutBlock?_eq_none_iff hend).mpr h.block, h.tail, Text.trim_of_edges he]
  rfl

theorem partsOf_of_root {rest : List Char} (h : Text.trim text.toList = '$' :: rest) :
    partsOf text = splitScriptChars (Text.trim text.toList) := by
  rw [partsOf, dropMarker_of_root h, h]

theorem alternativesOf_of_isWhole {rest : List Char} (h : Text.trim text.toList = '$' :: rest)
    (hw : IsWhole (Text.trim text.toList)) (he : Text.Edged (Text.trim text.toList)) (bareKeys : Bool) :
    alternativesOf text bareKeys = [trimmed text] := by
  have hexpanded : expanded bareKeys (Text.trim text.toList) = trimmed text := by
    rw [expanded, if_neg (by simp [h, isBareKey_of_root rest])]
    rfl
  rw [alternativesOf, partsOf_of_root h, splitScriptChars_of_isWhole hw he, splitAlternativesChars_of_isWhole hw he]
  exact congrArg (fun t => [t]) hexpanded

theorem readingOf_of_isWhole (h : Path.parse text = .ok path) (hw : IsWhole (Text.trim text.toList)) (bareKeys : Bool) :
    readingOf text bareKeys = ⟨[path], none, false⟩ := by
  have he := (Path.PathText.of_parse h).2.edged
  obtain ⟨rest, hroot⟩ := exists_root h
  rw [readingOf, alternativesOf_of_isWhole hroot hw he, partsOf_of_root hroot, splitScriptChars_of_isWhole hw he,
    pathsOf_cons_ok (parse_trimmed_of_ok h)]
  simp [pathsOf]

/-- An alternative between marks is not the whole text, also where it is short for a path. -/
theorem trimmed_expanded_ne {mark cs : List Char} (hmark : mark = "&&".toList ∨ mark = "||".toList) (hm : mark <:+: cs)
    {piece : List Char} (hp : piece ∈ pieces mark cs) (bareKeys : Bool) :
    trimmed (expanded bareKeys piece) ≠ String.ofList cs := by
  intro heq
  have htrim : Text.trim (expanded bareKeys piece).toList = cs := String.ofList_injective heq
  have hne : mark ≠ [] := by rcases hmark with rfl | rfl <;> decide
  have hpart := Text.trim_isInfix (expanded bareKeys piece).toList
  rw [htrim, expanded, String.toList_ofList] at hpart
  split at hpart
  next hbare =>
    -- no mark is in a chain of plain names
    obtain ⟨-, hchars⟩ := (Bool.and_eq_true _ _).mp ((Bool.and_eq_true _ _).mp hbare).2
    have hplain : ∀ c ∈ '$' :: '.' :: piece, c ≠ '&' ∧ c ≠ '|' := by
      have hword : Text.isWord '&' = false ∧ Text.isWord '|' = false := by decide +kernel
      intro c hc
      rcases List.mem_cons.mp hc with rfl | hc
      · decide
      rcases List.mem_cons.mp hc with rfl | hc
      · decide
      have hchar := List.all_eq_true.mp hchars c hc
      constructor <;> rintro rfl <;> simp [hword] at hchar
    have hsub := (hm.trans hpart).subset
    rcases hmark with rfl | rfl
    · exact (hplain '&' (hsub List.mem_cons_self)).1 rfl
    · exact (hplain '|' (hsub List.mem_cons_self)).2 rfl
  next => exact absurd hpart.length_le (Nat.not_le_of_lt (length_lt_of_mem_pieces hne hm piece hp))

theorem isWhole_of_readingOf (h : Path.parse text = .ok path) {bareKeys : Bool}
    (hr : readingOf text bareKeys = ⟨[path], none, false⟩) : IsWhole (Text.trim text.toList) := by
  obtain ⟨hsource, hpath⟩ := Path.PathText.of_parse h
  have hend : Text.trimEnd (Text.trim text.toList) = Text.trim text.toList := Text.trimRight_of_last hpath.edged.last
  have hscript : (partsOf text).2 = none := by
    have hnone := script?_readingOf text bareKeys
    rw [hr] at hnone
    exact Option.map_eq_none_iff.mp hnone.symm
  obtain ⟨rest, hroot⟩ := exists_root h
  rw [partsOf_of_root hroot, splitScriptChars_snd_eq_none_iff, cutBlock?_eq_none_iff hend] at hscript
  have hpaths : pathsOf (alternativesOf text bareKeys) = [path] := paths_readingOf text bareKeys ▸ congrArg Rule.paths hr
  have hwhole : (partsOf text).1 = Text.trim text.toList := by
    rw [partsOf_of_root hroot, splitScriptChars, (cutBlock?_eq_none_iff hend).mpr hscript.1, hscript.2]
    exact Text.trim_trim _
  have hno {mark : List Char} (hmark : mark = "&&".toList ∨ mark = "||".toList ∧ ¬ "&&".toList <:+: Text.trim text.toList) :
      ¬ mark <:+: Text.trim text.toList := by
    intro hm
    obtain ⟨found, hfound, hok⟩ := List.mem_filterMap.mp (hpaths ▸ List.mem_singleton_self path)
    rw [alternativesOf, hwhole, splitAlternativesChars_of_mark hmark hm] at hfound
    obtain ⟨piece, hp, rfl⟩ := List.mem_map.mp hfound
    have hparse := Path.PathText.of_parse (parse_eq_ok_iff.mpr hok)
    exact trimmed_expanded_ne (hmark.imp_right And.left) hm hp bareKeys (hparse.1.symm.trans hsource)
  exact ⟨hno (.inl rfl), hno (.inr ⟨rfl, hno (.inl rfl)⟩), hscript.1, hscript.2⟩

/-- A path is read as a rule of this one path if and only if it has no mark that rules are split at, and then without any
warning.  The rule resolves to the value of the path, or to an empty array where that is null or there is none. -/
theorem path_is_rule (h : Path.parse text = .ok path) (bareKeys : Bool) (notes : Notes) :
    ((outcome (parse text bareKeys) notes).1 = .ok ⟨[path], none, false⟩ ↔ IsWhole (Text.trim text.toList)) ∧
    (IsWhole (Text.trim text.toList) → (outcome (parse text bareKeys) notes).2 = notes ∧
      ∀ root, outcome (resolveText root text) notes =
        ((path.evaluate root).map fun value? => ⟨(value?.filter Tree.isUsable).getD (.array []), none⟩, notes)) := by
  have hread (hw : IsWhole (Text.trim text.toList)) (bareKeys : Bool) :
      outcome (parse text bareKeys) notes = (.ok ⟨[path], none, false⟩, notes) := by
    obtain ⟨rest, hroot⟩ := exists_root h
    have halternatives := alternativesOf_of_isWhole hroot hw (Path.PathText.of_parse h).2.edged bareKeys
    have hparse := parse_trimmed_of_ok h
    have hends : ¬ Endless text bareKeys := by
      rw [endless_iff, halternatives]
      simp [hparse]
    have hwarnings : (alternativesOf text bareKeys).filterMap warning? = [] := by
      simp [halternatives, warning?, hparse]
    rw [(outcome_parse text bareKeys notes).1 hends, readingOf_of_isWhole h hw, hwarnings, List.append_nil]
  refine ⟨⟨fun hrule => ?_, fun hw => congrArg Prod.fst (hread hw bareKeys)⟩, fun hw => ?_⟩
  · obtain ⟨hends, hendless⟩ := outcome_parse text bareKeys notes
    by_cases hlong : Endless text bareKeys
    · cases (hendless hlong).symm.trans hrule
    · rw [hends hlong] at hrule
      exact isWhole_of_readingOf h (Except.ok.inj hrule)
  · refine ⟨congrArg Prod.snd (hread hw bareKeys), fun root => ?_⟩
    rw [resolveText, outcome_bind, hread hw false]
    simp only [outcome_ofExcept_noted]
    refine congrArg (·, notes) ?_
    simp only [resolve, firstUsable, Bool.false_eq_true, ↓reduceIte]
    cases path.evaluate root with
    | error fault => rfl
    | ok value? =>
      cases value? with
      | none => rfl
      | some value => cases hu : value.isUsable <;> simp [bind, Except.bind, pure, Except.pure, hu, Except.map, Option.filter]

/-- Single marks in a quoted name, and blanks around the path. -/
theorem path_is_rule_quoted :
    let text := " $['a|b&c@js'] "
    let path : Path := ⟨"$['a|b&c@js']", [.field "a|b&c@js"]⟩
    (Path.parse text = .ok path ∧ IsWhole (Text.trim text.toList)) ∧
      (outcome (parse text true) Notes.empty).1 = .ok ⟨[path], none, false⟩ ∧
      outcome (resolveText (.object [("a|b&c@js", .integer 1)]) text) Notes.empty = (.ok ⟨.integer 1, none⟩, Notes.empty) ∧
      outcome (resolveText (.object []) text) Notes.empty = (.ok ⟨.array [], none⟩, Notes.empty) := by
  intro text path
  have hparse : Path.parse text = .ok path := by decide +kernel
  have hwhole : IsWhole (Text.trim text.toList) := by
    refine ⟨by decide +kernel, by decide +kernel, ?_, by decide +kernel⟩
    exact (cutBlock?_eq_none_iff (by decide +kernel)).mp (by decide +kernel)
  obtain ⟨hread, hresolve⟩ := path_is_rule hparse true Notes.empty
  exact ⟨⟨hparse, hwhole⟩, hread.mpr hwhole, (hresolve hwhole).2 _, (hresolve hwhole).2 _⟩

/-- A quoted name with a mark is split in two parts that are no path, and a field that is not there is not nothing. -/
theorem path_is_no_rule :
    Path.parse "$['a||b']" = .ok ⟨"$['a||b']", [.field "a||b"]⟩ ∧
      outcome (parse "$['a||b']" false) Notes.empty = (.ok ⟨[], none, false⟩,
        ⟨[.skippedAlternative (.badBracket "$['a"), .skippedAlternative (.noRoot "b']")], []⟩) ∧
      Path.evaluate (.object []) ⟨"$.a", [.field "a"]⟩ = .ok none ∧
      outcome (resolveText (.object []) "$.a") Notes.empty = (.ok ⟨.array [], none⟩, Notes.empty) := by
  have halternatives : alternativesOf "$['a||b']" false = ["$['a", "b']"] := by decide +kernel
  have hends : ¬ Endless "$['a||b']" false := by
    rw [endless_iff, halternatives]
    decide +kernel
  have hread := (outcome_parse "$['a||b']" false Notes.empty).1 hends
  have hreading : readingOf "$['a||b']" false = ⟨[], none, false⟩ := by
    have hparts : partsOf "$['a||b']" = ("$['a||b']".toList, none) := by decide +kernel
    have hfirst : Path.parse "$['a" = .error (.badBracket "$['a") := by decide +kernel
    have hsecond : Path.parse "b']" = .error (.noRoot "b']") := by decide +kernel
    rw [readingOf, halternatives, hparts, pathsOf_cons_error hfirst, pathsOf_cons_error hsecond]
    rfl
  have hwarnings : ["$['a", "b']"].filterMap warning? =
      [.skippedAlternative (.badBracket "$['a"), .skippedAlternative (.noRoot "b']")] := by decide +kernel
  rw [halternatives, hwarnings, hreading] at hread
  exact ⟨by decide +kernel, hread, rfl, by rfl⟩

end Rule

end SiteReader
