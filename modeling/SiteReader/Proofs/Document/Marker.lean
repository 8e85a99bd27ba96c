import SiteReader.Proofs.Document.Fault
import SiteReader.Proofs.Document.Row
import SiteReader.Proofs.Rule.Script

/-!
# The marker of selectors

A rule for a page may start with `@css:`, in any letter case.  No script starts in the marker (`rawParts_marker`), and it is
taken off the selector of a field, so that it makes no difference there (`fieldText_marker`).  Nothing takes it off a rule for
items, where it becomes the start of the first selector (`agrees_selectList`); most selectors are invalid then
(`marker_before_items`).
-/

namespace SiteReader

open Noted (Agrees IsSilent IsUniform)

/-! ### Spellings of the marker -/

namespace Excerpt

variable {marker cs : List Char}

/-- In no spelling of the marker is there anything that a script could start with, or a bar. -/
theorem exists_eq_of_marker (h : Text.AnyCase "@css:".toList marker) :
    ∃ c letters, marker = '@' :: c :: (letters ++ [':']) ∧ Text.sameLetter 'j' c = false ∧
      (∀ d ∈ c :: (letters ++ [':']), Text.sameLetter '@' d = false) ∧ '<' ∉ marker ∧ '|' ∉ marker := by
  have hat : ∀ a ∈ Text.caseVariants '@', a = '@' := Text.forall_mem (by decide +kernel)
  have hcolon : ∀ a ∈ Text.caseVariants ':', a = ':' := Text.forall_mem (by decide +kernel)
  have hfirst : ∀ c ∈ Text.caseVariants 'c',
      Text.sameLetter 'j' c = false ∧ Text.sameLetter '@' c = false ∧ c ≠ '<' ∧ c ≠ '|' :=
    Text.forall_mem (by decide +kernel)
  have hother : ∀ c ∈ Text.caseVariants 's', Text.sameLetter '@' c = false ∧ c ≠ '<' ∧ c ≠ '|' :=
    Text.forall_mem (by decide +kernel)
  have hletters : Text.AnyCase ['@', 'c', 's', 's', ':'] marker := h
  simp only [Text.AnyCase, List.forall₂_cons_left_iff, List.forall₂_nil_left_iff] at hletters
  obtain ⟨a, _, ha, ⟨c, _, hc, ⟨d, _, hd, ⟨e, _, he, ⟨f, _, hf, rfl, rfl⟩, rfl⟩, rfl⟩, rfl⟩, rfl⟩ := hletters
  obtain rfl := hat a (Text.mem_caseVariants (by decide) ha)
  obtain rfl := hcolon f (Text.mem_caseVariants (by decide) hf)
  obtain ⟨hj, hc⟩ := hfirst c (Text.mem_caseVariants (by decide) hc)
  have hd := hother d (Text.mem_caseVariants (by decide) hd)
  have he := hother e (Text.mem_caseVariants (by decide) he)
  refine ⟨c, [d, e], rfl, hj, ?_, ?_, ?_⟩
  · simpa [hc, hd, he] using (by decide : Text.sameLetter '@' ':' = false)
  · simp [hc.2.1.symm, hd.2.1.symm, he.2.1.symm]
  · simp [hc.2.2.symm, hd.2.2.symm, he.2.2.symm]

theorem trim_marker_append (h : Text.AnyCase "@css:".toList marker) (cs : List Char) :
    Text.trim (marker ++ cs) = marker ++ Text.trimEnd cs := by
  obtain ⟨c, letters, rfl, -⟩ := exists_eq_of_marker h
  have hend := Text.trimRight_append_cons (p := Text.isBlank) ('@' :: c :: letters) (c := ':') (by decide) cs
  have hstart : ('@' :: c :: (letters ++ [':']) ++ cs).dropWhile Text.isBlank = '@' :: c :: (letters ++ [':']) ++ cs :=
    List.dropWhile_cons_of_neg (by decide)
  rw [Text.trim, Text.trimBoth, hstart]
  simpa [Text.trimEnd] using hend

end Excerpt

/-! ### Scripts behind the marker -/

namespace Rule

/-- What stands before the script of a rule, and the script, with the blanks around them. -/
def rawParts (cs : List Char) : List Char × Option (List Char) :=
  match (cutBlock? cs).or (Text.cutAnyCase? "@js:".toList cs) with
  | some (paths, script) => (paths, some script)
  | none => (cs, none)

theorem splitScriptChars_eq (cs : List Char) :
    splitScriptChars cs = (Text.trim (rawParts cs).1, (rawParts cs).2.map Text.trim) := by
  unfold splitScriptChars rawParts
  cases (cutBlock? cs).or (Text.cutAnyCase? "@js:".toList cs) <;> rfl

theorem cutBlock?_marker {marker : List Char} (h : Text.AnyCase "@css:".toList marker) (cs : List Char) :
    cutBlock? (marker ++ cs) = (cutBlock? cs).map fun found => (marker ++ found.1, found.2) := by
  obtain ⟨c, letters, rfl, -, -, hblock, -⟩ := Excerpt.exists_eq_of_marker h
  have hmarker (cs : List Char) : '@' :: c :: (letters ++ [':']) ++ cs = '@' :: c :: letters ++ ':' :: cs := by simp
  have htrim : Text.trimEnd ('@' :: c :: letters ++ ':' :: cs) = '@' :: c :: letters ++ ':' :: Text.trimEnd cs :=
    Text.trimRight_append_cons _ (by decide) cs
  unfold cutBlock?
  rw [hmarker, htrim, Text.dropTail?_append_cons (by decide)]
  cases Text.dropTail? "</js>".toList (Text.trimEnd cs) with
  | none => rfl
  | some body =>
    have hcut : Text.cut? "<js>".toList ('@' :: c :: (letters ++ [':']) ++ body) = _ := Text.cut?_append_left hblock body
    rw [hmarker] at hcut
    exact hcut

theorem cutTail?_marker {marker : List Char} (h : Text.AnyCase "@css:".toList marker) (cs : List Char) :
    Text.cutAnyCase? "@js:".toList (marker ++ cs) =
      (Text.cutAnyCase? "@js:".toList cs).map fun found => (marker ++ found.1, found.2) := by
  obtain ⟨c, letters, rfl, hc, hletters, -⟩ := Excerpt.exists_eq_of_marker h
  have hno : Text.dropHeadAnyCase? "@js:".toList ('@' :: (c :: (letters ++ [':']) ++ cs)) = none :=
    (if_pos (by decide)).trans (if_neg (Bool.eq_false_iff.mp hc))
  have htail : Text.cutAnyCase? "@js:".toList (c :: (letters ++ [':']) ++ cs) = _ :=
    Text.cutAnyCase?_append_left hletters cs
  rw [List.cons_append, Text.cutAnyCase?, hno, htail, Option.map_map]
  rfl

theorem rawParts_marker {marker : List Char} (h : Text.AnyCase "@css:".toList marker) (cs : List Char) :
    rawParts (marker ++ cs) = (marker ++ (rawParts cs).1, (rawParts cs).2) := by
  unfold rawParts
  rw [cutBlock?_marker h, cutTail?_marker h, ← Option.map_or]
  cases (cutBlock? cs).or (Text.cutAnyCase? "@js:".toList cs) <;> rfl

theorem prefix_of_cutAnyCase? {mark cs : List Char} {found : List Char × List Char}
    (h : Text.cutAnyCase? mark cs = some found) : found.1 <+: cs := by
  induction cs generalizing found with
  | nil => cases h
  | cons c cs ih =>
    rw [Text.cutAnyCase?] at h
    split at h
    next =>
      obtain rfl := Option.some.inj h
      exact List.nil_prefix
    next =>
      obtain ⟨first, hfirst, rfl⟩ := Option.map_eq_some_iff.mp h
      exact List.cons_prefix_cons.mpr ⟨rfl, ih hfirst⟩

theorem prefix_of_cutBlock? {cs before script : List Char} (h : cutBlock? cs = some (before, script)) : before <+: cs := by
  obtain ⟨body, hbody, hcut⟩ := Option.bind_eq_some_iff.mp h
  obtain ⟨blanks, -, hcs⟩ := Text.eq_trimRight_append Text.isBlank cs
  have hend : Text.trimEnd cs = body ++ "</js>".toList := Text.append_of_dropTail? hbody
  have hstart : before <+: body := by
    rw [Text.append_of_cut? hcut, List.append_assoc]
    exact List.prefix_append _ _
  have hkept : body ++ "</js>".toList <+: cs := by
    rw [← hend]
    exact ⟨blanks, hcs.symm⟩
  exact (hstart.trans (List.prefix_append _ _)).trans hkept

theorem rawParts_prefix (cs : List Char) : (rawParts cs).1 <+: cs := by
  unfold rawParts
  split
  next paths script hfound =>
    rcases Option.or_eq_some_iff.mp hfound with hblock | ⟨-, htail⟩
    · exact prefix_of_cutBlock? hblock
    · exact prefix_of_cutAnyCase? htail
  next => exact List.prefix_rfl

end Rule

/-! ### Fields of pages -/

namespace Excerpt

variable {marker cs : List Char}

/-- A text that starts with the marker does so whatever follows it. -/
theorem unmarked_of_prefix {first : List Char} (hp : first <+: cs)
    (h : Text.dropHeadAnyCase? "@css:".toList (Text.trim cs) = none) :
    Text.dropHeadAnyCase? "@css:".toList (Text.trim first) = none := by
  refine Option.eq_none_iff_forall_ne_some.mpr fun rest hrest => ?_
  obtain ⟨found, hfound, htrim⟩ := Text.exists_anyCase_of_dropHeadAnyCase? hrest
  obtain ⟨before, after, hblanks, -, hfirst⟩ := Text.eq_append_trim first
  obtain ⟨others, rfl⟩ := hp
  have hcs : first ++ others = before ++ (found ++ (rest ++ after ++ others)) := by
    rw [hfirst, htrim]
    simp
  rw [hcs, Text.trim_append_left hblanks, trim_marker_append hfound, hfound.dropHeadAnyCase?] at h
  cases h

theorem selectorOf_eq (rule : String) :
    selectorOf rule = Text.trim ((Text.dropHeadAnyCase? "@css:".toList (Text.trim (Rule.rawParts rule.toList).1)).getD
      (Rule.rawParts rule.toList).1) := by
  unfold selectorOf
  rw [Rule.splitScriptChars_eq]
  dsimp only
  cases Text.dropHeadAnyCase? "@css:".toList (Text.trim (Rule.rawParts rule.toList).1) with
  | none => exact Text.trim_trim _
  | some rest => rfl

/-- The marker is taken off the selector of a rule. -/
theorem selectorOf_marker {marker rule : String} (hm : Text.AnyCase "@css:".toList marker.toList)
    (hr : Text.dropHeadAnyCase? "@css:".toList (Text.trim rule.toList) = none) :
    selectorOf (marker ++ rule) = selectorOf rule := by
  have hnone := unmarked_of_prefix (Rule.rawParts_prefix rule.toList) hr
  rw [selectorOf_eq, selectorOf_eq, String.toList_append, Rule.rawParts_marker hm, trim_marker_append hm,
    hm.dropHeadAnyCase?, hnone, Option.getD_some, Option.getD_none, Text.trim_trimEnd]

/-- A field of a page is the same with the marker before its rule. -/
theorem fieldText_marker {marker rule : String} (hm : Text.AnyCase "@css:".toList marker.toList)
    (hr : Text.dropHeadAnyCase? "@css:".toList (Text.trim rule.toList) = none) (evaluator? : Option Evaluator)
    (html base : String) : fieldText evaluator? html base (marker ++ rule) = fieldText evaluator? html base rule := by
  have hscript : (Rule.splitScriptChars (marker ++ rule).toList).2 = (Rule.splitScriptChars rule.toList).2 := by
    rw [Rule.splitScriptChars_eq, Rule.splitScriptChars_eq, String.toList_append, Rule.rawParts_marker hm]
  rw [fieldText_eq, fieldText_eq, hscript, selectorOf_marker hm hr]

theorem fieldText_empty (evaluator? : Option Evaluator) (html base : String) :
    fieldText evaluator? html base "" = pure "" := by
  rw [fieldText_eq]
  rfl

/-! ### Items of pages -/

theorem agrees_elements (page : List Markup) (option other : String) (chain : Chain) :
    Agrees (elements page option chain) (elements page other chain) := by
  unfold elements
  split
  next => exact (IsSilent.pure _).uniform.agrees
  next =>
    refine (IsSilent.ofExcept _).uniform.agrees.bind fun found? => ?_
    cases found? with
    | none => exact fun _ _ => rfl
    | some found => exact (IsSilent.pure _).uniform.agrees

theorem agrees_firstElements {option other : String} (h : Chain.parse option = Chain.parse other) (page : List Markup)
    (rest : List String) : Agrees (firstElements page (option :: rest)) (firstElements page (other :: rest)) := by
  rw [firstElements, firstElements, h]
  refine (agrees_elements page option other _).bind fun found => ?_
  cases found with
  | nil => exact (isSilent_firstElements page rest).uniform.agrees
  | cons node others => exact (IsSilent.pure _).uniform.agrees

/-- A chain has no step before its first mark if there is nothing else. -/
theorem parse_mark_cons (cs : List Char) : Chain.parse (String.ofList ('@' :: cs)) = Chain.parse (String.ofList cs) := by
  have hsplit : Text.splitOn ['@'] ('@' :: cs) = [] :: Text.splitOn ['@'] cs :=
    Text.splitOn_append_of_not_mem List.not_mem_nil cs
  unfold Chain.parse
  rw [String.toList_ofList, String.toList_ofList, hsplit, List.filter_cons_of_neg (by decide)]

theorem name_append_ne {name : String} (hname : Text.AnyCase "css:".toList name.toList) (rule : String) : name ++ rule ≠ "" := by
  rw [Ne, ← String.toList_eq_nil_iff, String.toList_append, List.append_eq_nil_iff]
  rintro ⟨hnil, -⟩
  rw [hnil] at hname
  cases hname

theorem marked_ne (name rule : String) : "@" ++ name ++ rule ≠ "" := by
  rw [Ne, ← String.toList_eq_nil_iff, String.toList_append, String.toList_append]
  exact List.cons_ne_nil _ _

/-- In a rule for items the marker is read as the start of a selector, from its second character on. -/
theorem agrees_selectList {name : String} (hname : Text.AnyCase "css:".toList name.toList) (html rule : String) :
    Agrees (selectList html ("@" ++ name ++ rule)) (selectList html (name ++ rule)) := by
  have hm : Text.AnyCase "@css:".toList ('@' :: name.toList) := .cons (by decide) hname
  obtain ⟨-, -, -, -, -, -, hbar⟩ := exists_eq_of_marker hm
  obtain ⟨first, others, hsplit⟩ := Text.splitOn_append_left '|' ['|'] rule.toList
  have halternatives (front : List Char) (h : '|' ∉ front) :
      alternatives (front ++ rule.toList) = String.ofList (front ++ first) :: others.map String.ofList := by
    rw [alternatives]
    exact congrArg (List.map String.ofList) (hsplit front h)
  have hmarked : ("@" ++ name ++ rule).toList = '@' :: name.toList ++ rule.toList := by simp
  unfold selectList
  rw [if_neg (String.isEmpty_iff.not.mpr (marked_ne name rule)), if_neg (String.isEmpty_iff.not.mpr (name_append_ne hname rule)),
    hmarked, halternatives _ hbar, String.toList_append,
    halternatives _ fun h => hbar (List.mem_cons_of_mem _ h)]
  refine (IsSilent.ofExcept _).uniform.agrees.bind fun page => ?_
  exact (agrees_firstElements (parse_mark_cons _) page _).bind fun _ => (IsSilent.pure _).uniform.agrees

end Excerpt

/-! ### Documents -/

namespace Document

theorem items_page {rule : String} (hne : rule ≠ "") (evaluator? : Option Evaluator) (html : String) :
    (page html).items evaluator? rule = do return (← Excerpt.selectList html rule).map Tree.text :=
  if_neg fun hempty => hne (String.isEmpty_iff.mp hempty)

theorem row_marked {field : String → Noted String} {rule other : String} (h : field rule = field other) (hr : rule ≠ "")
    (ho : other ≠ "") (key : String) (before after : List (String × String)) :
    row field (before ++ (key, rule) :: after) = row field (before ++ (key, other) :: after) := by
  induction before with
  | nil =>
    have hempty {text : String} (hne : text ≠ "") : ¬ text.isEmpty = true := fun h => hne (String.isEmpty_iff.mp h)
    rw [List.nil_append, List.nil_append, row, row, if_neg (hempty hr), if_neg (hempty ho), h]
  | cons asked before ih => rw [List.cons_append, List.cons_append, row, row, ih]

/-- The marker before the rule of a field makes no difference to a page, alone and in a list.  Before the rule for the items
of a list it is no marker: but for its first character, it is a part of the selector. -/
theorem marker_before_rule {name rule : String} (hname : Text.AnyCase "css:".toList name.toList)
    (hrule : Text.dropHeadAnyCase? "@css:".toList (Text.trim rule.toList) = none) (evaluator? : Option Evaluator)
    (base html : String) :
    let marked := "@" ++ name ++ rule
    (page html).fieldText evaluator? base marked = (page html).fieldText evaluator? base rule ∧
      (rule ≠ "" → ∀ listRule key before after,
        (page html).rows evaluator? base listRule (before ++ (key, marked) :: after) =
          (page html).rows evaluator? base listRule (before ++ (key, rule) :: after)) ∧
      Agrees ((page html).items evaluator? marked) ((page html).items evaluator? (name ++ rule)) ∧
      ∀ fields, Agrees ((page html).rows evaluator? base marked fields) ((page html).rows evaluator? base (name ++ rule) fields) := by
  intro marked
  have hne : marked ≠ "" := Excerpt.marked_ne name rule
  have hm : Text.AnyCase "@css:".toList ("@" ++ name).toList := by
    rw [String.toList_append]
    exact .cons (by decide) hname
  have hfield (html : String) : Excerpt.fieldText evaluator? html base marked = Excerpt.fieldText evaluator? html base rule :=
    Excerpt.fieldText_marker hm hrule evaluator? html base
  have hitems : Agrees ((page html).items evaluator? marked) ((page html).items evaluator? (name ++ rule)) := by
    rw [items_page hne, items_page (Excerpt.name_append_ne hname rule)]
    exact (Excerpt.agrees_selectList hname html rule).bind fun _ => (IsSilent.pure _).uniform.agrees
  refine ⟨?_, fun hr listRule key before after => ?_, hitems, fun fields => hitems.bind fun found => ?_⟩
  · rw [fieldText_of_ne hne]
    by_cases hr : rule = ""
    · exact (hfield html).trans (hr ▸ Excerpt.fieldText_empty evaluator? html base)
    · rw [fieldText_of_ne hr]
      exact hfield html
  · have hrow (item : Tree) := row_marked (hfield item.plainText) hne hr key before after
    unfold rows
    simp only [hrow]
  · have hrow (item : Tree) : IsUniform (row (Excerpt.fieldText evaluator? item.plainText base) fields) :=
      isUniform_row (Excerpt.isUniform_fieldText evaluator? item.plainText base) fields
    exact (IsUniform.mapM hrow found).agrees

/-- The marker in capital letters, before a rule with a script. -/
theorem marker_before_rule_capitals :
    (Text.AnyCase "css:".toList "CSS:".toList ∧ Text.dropHeadAnyCase? "@css:".toList (Text.trim "p@js:f".toList) = none) ∧
      (page "<p>a</p>").fieldText (some passthrough) "" "@CSS:p@js:f" =
        (page "<p>a</p>").fieldText (some passthrough) "" "p@js:f" ∧
      (page "<p>a</p>").rows none "" "p" [("x", "@CSS:p@js:f")] = (page "<p>a</p>").rows none "" "p" [("x", "p@js:f")] := by
  have hname : Text.AnyCase "css:".toList "CSS:".toList := by decide
  have hrule : Text.dropHeadAnyCase? "@css:".toList (Text.trim "p@js:f".toList) = none := by decide +kernel
  obtain ⟨hfield, -⟩ := marker_before_rule hname hrule (some passthrough) "" "<p>a</p>"
  obtain ⟨-, hrows, -⟩ := marker_before_rule hname hrule none "" "<p>a</p>"
  exact ⟨⟨hname, hrule⟩, hfield, hrows (by decide) "p" "x" [] []⟩

/-- The marker makes a selector invalid that finds an element without it. -/
theorem marker_before_items :
    Text.dropHeadAnyCase? "@css:".toList (Text.trim "p".toList) = none ∧
      (outcome ((page "<p>a</p>").items none "p") Notes.empty).1 = .ok [.text "<p>a</p>"] ∧
      (outcome ((page "<p>a</p>").items none "@css:p") Notes.empty).1 = .ok [] ∧
      (outcome (Excerpt.selectList "<p>a</p>" "@css:p") Notes.empty).2.warnings = [.invalidSelector "@css:p"] := by
  have hfound : (outcome (Excerpt.selectList "<p>a</p>" "p") Notes.empty).1 = .ok ["<p>a</p>"] := by decide +kernel
  have hmissed : (outcome (Excerpt.selectList "<p>a</p>" "@css:p") Notes.empty).1 = .ok [] := by decide +kernel
  refine ⟨by decide +kernel, ?_, ?_, by decide +kernel⟩
  · rw [items_page (by decide), outcome_bind_of_ok hfound]
    rfl
  · rw [items_page (by decide), outcome_bind_of_ok hmissed]
    rfl

end Document

end SiteReader
