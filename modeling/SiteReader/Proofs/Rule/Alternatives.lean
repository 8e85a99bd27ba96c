import SiteReader.Proofs.Outcome
import SiteReader.Proofs.Path.Parser
import SiteReader.Proofs.Text.Mark
import SiteReader.Rule.Basic

/-!
# Alternatives of rules

A rule that was put together from alternatives, and a script after them, is taken apart into the same alternatives and the
same script, whichever mark is between them (`parse_ruleText`).  Alternatives that are no path are skipped with a warning,
and the first path to a value that counts decides (`resolve_alternatives`).
-/

namespace SiteReader

namespace Rule

/-! ### The marker at the start -/

theorem foreign_mark {c : Char} (hc : c = '|' ∨ c = '&' ∨ c = '<') : Text.Foreign "@json:".toList c := by
  rcases hc with rfl | rfl | rfl <;> decide

theorem foreign_blank {c : Char} (hc : Text.isBlank c = true) : Text.Foreign "@json:".toList c :=
  Text.of_isBlank (P := fun c => Text.Foreign "@json:".toList c) (by decide +kernel) hc

/-- The marker is only looked for in the text before the first mark. -/
theorem dropMarker_append {first tail : List Char}
    (hfirst : Text.dropHeadAnyCase? "@json:".toList (Text.trimStart first) = none)
    (htail : ∀ c, tail.head? = some c → c = '|' ∨ c = '&' ∨ c = '<') :
    dropMarker "@json:".toList (first ++ tail) = Text.trim (first ++ tail) := by
  have hstop : ∀ c, tail.head? = some c → Text.isBlank c = false := by
    intro c hc
    rcases htail c hc with rfl | rfl | rfl <;> decide
  obtain ⟨after, hblank, htrim⟩ := Text.eq_trimRight_append Text.isBlank (Text.trimStart (first ++ tail))
  have hnone : Text.dropHeadAnyCase? "@json:".toList (Text.trim (first ++ tail)) = none := by
    have hsome : (Text.dropHeadAnyCase? "@json:".toList (Text.trim (first ++ tail))).isSome =
        (Text.dropHeadAnyCase? "@json:".toList (Text.trimStart first)).isSome := by
      calc (Text.dropHeadAnyCase? "@json:".toList (Text.trim (first ++ tail))).isSome
        _ = (Text.dropHeadAnyCase? "@json:".toList (Text.trim (first ++ tail) ++ after)).isSome :=
          (Text.isSome_dropHeadAnyCase?_append fun c hc => foreign_blank (hblank c (List.mem_of_head? hc))).symm
        _ = (Text.dropHeadAnyCase? "@json:".toList (Text.trimStart first ++ tail)).isSome := by
          rw [← Text.trimStart_append_of_stop first hstop, htrim]
          rfl
        _ = _ := Text.isSome_dropHeadAnyCase?_append fun c hc => foreign_mark (htail c hc)
    rw [hfirst] at hsome
    exact Option.not_isSome_iff_eq_none.mp (Bool.eq_false_iff.mp hsome)
  unfold dropMarker
  simp only [hnone, Option.getD_none, Text.trim_trim]

/-! ### The script at the end -/

theorem splitScriptChars_of_none {cs : List Char} (hblock : ¬ "<js>".toList <:+: cs)
    (htail : Text.cutAnyCase? "@js:".toList cs = none) : splitScriptChars cs = (Text.trim cs, none) := by
  have hcut : cutBlock? cs = none := by
    unfold cutBlock?
    cases hbody : Text.dropTail? "</js>".toList (Text.trimEnd cs) with
    | none => rfl
    | some body =>
      refine Text.cut?_eq_none_iff.mpr fun h => hblock (h.trans ?_)
      obtain ⟨after, -, hcs⟩ := Text.eq_trimRight_append Text.isBlank cs
      have hbefore : body <+: Text.trimEnd cs := ⟨_, (Text.append_of_dropTail? hbody).symm⟩
      exact (hbefore.trans ⟨after, hcs.symm⟩).isInfix
  unfold splitScriptChars
  rw [hcut, htail]
  rfl

theorem edged_block (script : List Char) : Text.Edged ("<js>".toList ++ (script ++ "</js>".toList)) where
  ne_nil := List.cons_ne_nil _ _
  head c hc := by
    obtain rfl := Option.some.inj hc
    decide
  last c hc := by
    rw [← List.append_assoc, List.getLast?_append_of_ne_nil _ (by decide)] at hc
    obtain rfl := Option.some.inj hc
    decide

theorem splitScriptChars_block {cs : List Char} (hblock : ¬ "<js>".toList <:+: cs) (script : List Char) :
    splitScriptChars (cs ++ ("<js>".toList ++ (script ++ "</js>".toList))) = (Text.trim cs, some (Text.trim script)) := by
  have hend : Text.trimEnd (cs ++ ("<js>".toList ++ (script ++ "</js>".toList))) =
      cs ++ ("<js>".toList ++ script) ++ "</js>".toList := by
    rw [List.append_assoc, List.append_assoc]
    refine Text.trimRight_of_last fun c hc => ?_
    rw [List.getLast?_append_of_ne_nil _ (edged_block script).ne_nil] at hc
    exact (edged_block script).last c hc
  have hcut : cutBlock? (cs ++ ("<js>".toList ++ (script ++ "</js>".toList))) = some (cs, script) := by
    unfold cutBlock?
    rw [hend, Text.dropTail?_append]
    exact Text.cut?_append_of_not_isInfix (by decide) hblock script
  unfold splitScriptChars
  rw [hcut]
  rfl

theorem splitScriptChars_trim_of_none {cs : List Char} (hblock : ¬ "<js>".toList <:+: cs)
    (htail : Text.cutAnyCase? "@js:".toList cs = none) : splitScriptChars (Text.trim cs) = (Text.trim cs, none) := by
  obtain ⟨before, after, -, -, hcs⟩ := Text.eq_append_trim cs
  rw [hcs] at htail
  rw [splitScriptChars_of_none (fun hpart => hblock (hpart.trans (Text.trim_isInfix cs)))
    (Text.cutAnyCase?_of_append htail), Text.trim_trim]

theorem splitScriptChars_trim_block {cs : List Char} (hblock : ¬ "<js>".toList <:+: cs) (script : List Char) :
    splitScriptChars (Text.trim (cs ++ ("<js>".toList ++ (script ++ "</js>".toList)))) =
      (Text.trim cs, some (Text.trim script)) := by
  have hstart : Text.trimStart cs <:+: cs := (List.dropWhile_suffix _).isInfix
  rw [Text.trim_append_of_edged cs (edged_block script), splitScriptChars_block (fun hpart => hblock (hpart.trans hstart)),
    Text.trim_trimStart]

/-! ### The alternatives between the marks -/

/-- The texts between the occurrences of a mark, without blanks around them and without blank ones. -/
def pieces (mark cs : List Char) : List (List Char) :=
  ((Text.splitOn mark cs).map Text.trim).filter (!·.isEmpty)

theorem splitOn_or_whole (mark cs : List Char) :
    (if Text.hasMark mark cs then Text.splitOn mark cs else [cs]) = Text.splitOn mark cs := by
  split
  next => rfl
  next h =>
    rw [Text.hasMark_iff] at h
    rw [Text.splitOn_of_not_isInfix h]

/-- Where only one of the marks can occur, the text is split at that one. -/
theorem splitAlternativesChars_eq {m other : Char} (h : m = '|' ∧ other = '&' ∨ m = '&' ∧ other = '|') {cs : List Char}
    (hother : other ∉ cs) : splitAlternativesChars cs = pieces [m, m] cs := by
  have hno : Text.hasMark [other, other] cs = false := by
    rw [Bool.eq_false_iff, Ne, Text.hasMark_iff]
    exact fun hpart => hother (hpart.subset List.mem_cons_self)
  unfold splitAlternativesChars pieces
  rcases h with ⟨rfl, rfl⟩ | ⟨rfl, rfl⟩
  · simp only [show "&&".toList = ['&', '&'] from rfl, hno, Bool.false_eq_true, ↓reduceIte, splitOn_or_whole]
    rfl
  · simp only [show "||".toList = ['|', '|'] from rfl, hno, Bool.false_eq_true, ↓reduceIte, splitOn_or_whole]
    rfl

/-- The texts without blanks around them, and without blank ones. -/
def candidates (texts : List String) : List (List Char) :=
  (texts.map fun text => Text.trim text.toList).filter (!·.isEmpty)

theorem pieces_intercalate {m : Char} {texts : List String} (hm : Text.isBlank m = false)
    (h : ∀ text ∈ texts, m ∉ text.toList) :
    pieces [m, m] (Text.trim ([m, m].intercalate (texts.map String.toList))) = candidates texts := by
  unfold pieces candidates
  rw [Text.map_trim_splitOn_trim (List.cons_ne_nil _ _) (by simpa using hm)]
  cases texts with
  | nil => rfl
  | cons text rest =>
    rw [Text.splitOn_intercalate (by simp) (by simpa using h), List.map_map]
    rfl

theorem filterMap_candidates {β : Type} (f : String → Option β) (texts : List String) :
    (candidates texts).filterMap (fun c => f (String.ofList c)) =
      texts.filterMap fun text => if trimmed text = "" then none else f (trimmed text) := by
  unfold candidates
  induction texts with
  | nil => rfl
  | cons text rest ih =>
    rw [List.map_cons, List.filterMap_cons]
    by_cases hblank : Text.trim text.toList = []
    · rw [List.filter_cons_of_neg (by simp [hblank]), ih, if_pos (Text.trimmed_eq_empty_iff.mpr hblank)]
    · rw [List.filter_cons_of_pos (by simpa using hblank), if_neg (Text.trimmed_eq_empty_iff.not.mpr hblank), List.filterMap_cons, ih]
      rfl

/-! ### Reading the alternatives -/

/-- The paths among some texts. -/
def pathsOf (texts : List String) : List Path :=
  texts.filterMap fun text => (Path.parse text).toOption

theorem pathsOf_cons_ok {text : String} {path : Path} (h : Path.parse text = .ok path) (rest : List String) :
    pathsOf (text :: rest) = path :: pathsOf rest := by
  rw [pathsOf, List.filterMap_cons, h]
  rfl

theorem pathsOf_cons_error {text : String} {defect : Path.Defect} (h : Path.parse text = .error defect)
    (rest : List String) : pathsOf (text :: rest) = pathsOf rest := by
  rw [pathsOf, List.filterMap_cons, h]
  rfl

/-- Whether a text is a path. -/
def isPath (text : String) : Bool :=
  (Path.parse text).toOption.isSome

/-- The warning about a text that is read as a path and is none. -/
def warning? (text : String) : Option Warning :=
  match Path.parse text with
  | .ok _ => none
  | .error defect => some (.skippedAlternative defect)

/-- The warning about an alternative.  Blank ones are skipped without any. -/
def rejection? (text : String) : Option Warning :=
  if trimmed text = "" then none else warning? (trimmed text)

theorem parse_trimmed (text : String) : (Path.parse (trimmed text)).toOption = (Path.parse text).toOption := by
  have htrim : Text.trim (trimmed text).toList = Text.trim text.toList := by
    rw [trimmed, String.toList_ofList, Text.trim_trim]
  have hsource : trimmed (trimmed text) = trimmed text := congrArg String.ofList htrim
  unfold Path.parse
  rw [htrim, hsource]
  split <;> rfl

theorem parse_of_blank {text : String} (h : trimmed text = "") : (Path.parse text).toOption = none := by
  rw [← parse_trimmed, h]
  rfl

theorem outcome_warn (warning : Warning) (notes : Notes) :
    outcome (warn warning) notes = (.ok (), ⟨notes.warnings ++ [warning], notes.calls⟩) := rfl

/-- All candidates are read; those that are no path leave one warning each, in order. -/
theorem outcome_readPaths {cs : List (List Char)}
    (h : ∀ c ∈ cs, Path.parse (String.ofList c) ≠ .error .endlessIndex) (notes : Notes) :
    outcome (readPaths false cs) notes =
      (.ok (cs.filterMap fun c => (Path.parse (String.ofList c)).toOption),
        ⟨notes.warnings ++ cs.filterMap fun c => warning? (String.ofList c), notes.calls⟩) := by
  induction cs generalizing notes with
  | nil => simp [readPaths]
  | cons c rest ih =>
    have hc := h c List.mem_cons_self
    have hrest := ih fun d hd => h d (List.mem_cons_of_mem _ hd)
    rw [readPaths]
    simp only [Bool.false_and, Bool.false_eq_true, ↓reduceIte]
    cases hp : Path.parse (String.ofList c) with
    | ok path =>
      have hpath : (Path.parse (String.ofList c)).toOption = some path := by
        rw [hp]
        rfl
      have hwarning : warning? (String.ofList c) = none := by
        unfold warning?
        rw [hp]
      rw [List.filterMap_cons, hpath, List.filterMap_cons, hwarning]
      simp only [outcome_bind, hrest, outcome_pure]
    | error defect =>
      have hpath : (Path.parse (String.ofList c)).toOption = none := by
        rw [hp]
        rfl
      have hwarning : warning? (String.ofList c) = some (.skippedAlternative defect) := by
        unfold warning?
        rw [hp]
      rw [List.filterMap_cons, hpath, List.filterMap_cons, hwarning]
      cases defect with
      | endlessIndex => exact absurd hp hc
      | _ => simp only [outcome_bind, outcome_warn, hrest, List.append_assoc, List.singleton_append]

/-! ### The text of a rule -/

/-- A text that may stand as an alternative: it has no mark of those between alternatives and before scripts, does not begin
with the marker of rules, and has no index that is too long to be read. -/
structure IsAlternative (text : String) : Prop where
  ampersand : '&' ∉ text.toList
  bar : '|' ∉ text.toList
  block : ¬ "<js>".toList <:+: text.toList
  tail : Text.cutAnyCase? "@js:".toList text.toList = none
  marker : Text.dropHeadAnyCase? "@json:".toList (Text.trimStart text.toList) = none
  index : ∀ before digits after, text.toList = before ++ '[' :: (digits ++ ']' :: after) →
    (∀ c ∈ digits, Text.isDecimal c = true) → digits.length ≤ Numeral.digitLimit

/-- Alternatives with a mark between them, and a script after them if there is one. -/
def ruleText (mark : String) (texts : List String) (script? : Option String) : String :=
  mark.intercalate texts ++ script?.elim "" fun script => "<js>" ++ script ++ "</js>"

/-- The alternatives put together are blank. -/
def HasNoText (texts : List String) : Prop :=
  texts.length ≤ 1 ∧ ∀ text ∈ texts, trimmed text = ""

instance (texts : List String) : Decidable (HasNoText texts) :=
  inferInstanceAs (Decidable (_ ∧ _))

theorem IsAlternative.parse_ne {text : String} (h : IsAlternative text) :
    Path.parse (trimmed text) ≠ .error .endlessIndex := by
  intro hendless
  obtain ⟨segments, before, digits, after, -, hdigits, hlong, hcs⟩ := Path.EndlessIndex.of_parse hendless
  rw [trimmed, String.toList_ofList, Text.trim_trim] at hcs
  obtain ⟨front, back, -, -, htext⟩ := Text.eq_append_trim text.toList
  rw [hcs] at htext
  have hle := h.index (front ++ '$' :: before) digits (after ++ back) (by simpa using htext) hdigits
  omega

/-- The characters of a script block, if there is one. -/
def blockChars : Option String → List Char
  | none => []
  | some script => "<js>".toList ++ (script.toList ++ "</js>".toList)

theorem toList_ruleText (mark : String) (texts : List String) (script? : Option String) :
    (ruleText mark texts script?).toList = mark.toList.intercalate (texts.map String.toList) ++ blockChars script? := by
  rw [ruleText, String.toList_append, String.toList_intercalate]
  cases script? with
  | none => rfl
  | some script =>
    rw [Option.elim_some, String.toList_append, String.toList_append, List.append_assoc]
    rfl

/-- The text up to the first mark is empty or an alternative. -/
theorem exists_first {m : Char} (hm : m = '|' ∨ m = '&') (texts : List (List Char)) (script? : Option String) :
    ∃ first tail, [m, m].intercalate texts ++ blockChars script? = first ++ tail ∧ (first = [] ∨ first ∈ texts) ∧
      ∀ c, tail.head? = some c → c = '|' ∨ c = '&' ∨ c = '<' := by
  have hblock : ∀ c, (blockChars script?).head? = some c → c = '|' ∨ c = '&' ∨ c = '<' := by
    intro c hc
    cases script? with
    | none => cases hc
    | some script =>
      obtain rfl := Option.some.inj hc
      exact .inr (.inr rfl)
  cases texts with
  | nil => exact ⟨[], _, rfl, .inl rfl, hblock⟩
  | cons text rest =>
    refine ⟨text, ?_⟩
    cases rest with
    | nil => exact ⟨_, by rw [List.intercalate_singleton], .inr List.mem_cons_self, hblock⟩
    | cons next rest =>
      refine ⟨[m, m] ++ ([m, m].intercalate (next :: rest) ++ blockChars script?), ?_, .inr List.mem_cons_self, ?_⟩
      · rw [List.intercalate_cons_cons, List.append_assoc, List.append_assoc]
      · intro c hc
        obtain rfl : m = c := Option.some.inj hc
        rcases hm with rfl | rfl
        · exact .inl rfl
        · exact .inr (.inl rfl)

variable {texts : List String}

theorem not_isInfix_block {m : Char} (hm : m = '|' ∨ m = '&') (h : ∀ text ∈ texts, IsAlternative text) :
    ¬ "<js>".toList <:+: [m, m].intercalate (texts.map String.toList) := by
  intro hpart
  have hmem : m ∉ "<js>".toList := by rcases hm with rfl | rfl <;> decide
  obtain ⟨cs, hcs, hfound⟩ := Text.infix_of_infix_intercalate hmem (by decide) hpart
  obtain ⟨text, ht, rfl⟩ := List.mem_map.mp hcs
  exact (h text ht).block hfound

theorem cutAnyCase?_tail {m : Char} (hm : m = '|' ∨ m = '&') (h : ∀ text ∈ texts, IsAlternative text) :
    Text.cutAnyCase? "@js:".toList ([m, m].intercalate (texts.map String.toList)) = none := by
  refine Text.cutAnyCase?_intercalate (by decide) (by rcases hm with rfl | rfl <;> decide) fun cs hcs => ?_
  obtain ⟨text, ht, rfl⟩ := List.mem_map.mp hcs
  exact (h text ht).tail

/-- The alternatives are told apart from the script, and no marker is taken off. -/
theorem splitScriptChars_ruleText {m : Char} (hm : m = '|' ∨ m = '&') (h : ∀ text ∈ texts, IsAlternative text)
    (script? : Option String) :
    splitScriptChars (dropMarker "@json:".toList ([m, m].intercalate (texts.map String.toList) ++ blockChars script?)) =
      (Text.trim ([m, m].intercalate (texts.map String.toList)), script?.map fun script => Text.trim script.toList) := by
  obtain ⟨first, tail, hsplit, hfirst, htail⟩ := exists_first hm (texts.map String.toList) script?
  have hmarker : Text.dropHeadAnyCase? "@json:".toList (Text.trimStart first) = none := by
    rcases hfirst with rfl | hfirst
    · rfl
    · obtain ⟨text, ht, rfl⟩ := List.mem_map.mp hfirst
      exact (h text ht).marker
  have hblock := not_isInfix_block hm h
  rw [hsplit, dropMarker_append hmarker htail, ← hsplit]
  cases script? with
  | none =>
    have hnil := List.append_nil ([m, m].intercalate (texts.map String.toList))
    exact (congrArg (splitScriptChars <| Text.trim ·) hnil).trans
      (splitScriptChars_trim_of_none hblock (cutAnyCase?_tail hm h))
  | some script => exact splitScriptChars_trim_block hblock script.toList

theorem not_mem_trim_intercalate {m other : Char} (hne : m ≠ other) (h : ∀ text ∈ texts, other ∉ text.toList) :
    other ∉ Text.trim ([m, m].intercalate (texts.map String.toList)) := by
  intro hmem
  obtain ⟨before, after, -, -, hcs⟩ := Text.eq_append_trim ([m, m].intercalate (texts.map String.toList))
  have hmem : other ∈ [m, m].intercalate (texts.map String.toList) := by
    rw [hcs]
    exact List.mem_append_right _ (List.mem_append_left _ hmem)
  have hmark : m ∉ [other] := fun hm => hne (List.mem_singleton.mp hm)
  obtain ⟨cs, hfound, hpart⟩ :=
    Text.infix_of_infix_intercalate hmark (List.cons_ne_nil _ _) ((List.singleton_infix_iff _ _).mpr hmem)
  obtain ⟨text, ht, rfl⟩ := List.mem_map.mp hfound
  exact h text ht ((List.singleton_infix_iff _ _).mp hpart)

theorem splitAlternativesChars_intercalate {m : Char} (hm : m = '|' ∨ m = '&')
    (h : ∀ text ∈ texts, IsAlternative text) :
    splitAlternativesChars (Text.trim ([m, m].intercalate (texts.map String.toList))) = candidates texts := by
  have hbar : ∀ text ∈ texts, '|' ∉ text.toList := fun text ht => (h text ht).bar
  have hampersand : ∀ text ∈ texts, '&' ∉ text.toList := fun text ht => (h text ht).ampersand
  rcases hm with rfl | rfl
  · rw [splitAlternativesChars_eq (.inl ⟨rfl, rfl⟩) (not_mem_trim_intercalate (by decide) hampersand),
      pieces_intercalate (by decide) hbar]
  · rw [splitAlternativesChars_eq (.inr ⟨rfl, rfl⟩) (not_mem_trim_intercalate (by decide) hbar),
      pieces_intercalate (by decide) hampersand]

theorem trim_intercalate_eq_nil_iff {m : Char} (hm : Text.isBlank m = false) (texts : List String) :
    Text.trim ([m, m].intercalate (texts.map String.toList)) = [] ↔ HasNoText texts := by
  unfold HasNoText
  cases texts with
  | nil => exact iff_of_true rfl ⟨by decide, List.forall_mem_nil _⟩
  | cons text rest =>
    cases rest with
    | nil => simp [Text.trimmed_eq_empty_iff]
    | cons next rest =>
      -- the mark is not blank
      refine iff_of_false (fun h => ?_) (fun h => absurd h.1 (by simp))
      have hmem : m ∈ [m, m].intercalate ((text :: next :: rest).map String.toList) := by
        simp [List.intercalate_cons_cons]
      cases hm.symm.trans (Text.trim_eq_nil_iff.mp h m hmem)

theorem parse_of_split {raw : String} {pathText : List Char} {script? : Option (List Char)}
    (h : splitScriptChars (dropMarker "@json:".toList raw.toList) = (pathText, script?)) (bareKeys : Bool) :
    parse raw bareKeys = if pathText.isEmpty && script?.isSome then pure ⟨[], script?.map String.ofList, true⟩
      else do return ⟨← readPaths bareKeys (splitAlternativesChars pathText), script?.map String.ofList, false⟩ := by
  unfold parse
  conv_lhs => zeta
  rw [h]

/-- What a rule is read to does not depend on the mark between its alternatives. -/
theorem parse_ruleText {mark : String} (hmark : mark = "||" ∨ mark = "&&") (h : ∀ text ∈ texts, IsAlternative text)
    (script? : Option String) :
    parse (ruleText mark texts script?) false =
      if HasNoText texts ∧ script?.isSome then pure ⟨[], script?.map trimmed, true⟩
      else do return ⟨← readPaths false (candidates texts), script?.map trimmed, false⟩ := by
  obtain ⟨m, rfl, hm⟩ : ∃ m, mark = String.ofList [m, m] ∧ (m = '|' ∨ m = '&') := by
    rcases hmark with rfl | rfl
    · exact ⟨'|', rfl, .inl rfl⟩
    · exact ⟨'&', rfl, .inr rfl⟩
  have hblank : Text.isBlank m = false := by rcases hm with rfl | rfl <;> decide
  have hchars : (ruleText (String.ofList [m, m]) texts script?).toList =
      [m, m].intercalate (texts.map String.toList) ++ blockChars script? := by
    rw [toList_ruleText, String.toList_ofList]
  have hsplit := splitScriptChars_ruleText hm h script?
  rw [← hchars] at hsplit
  rw [parse_of_split hsplit, splitAlternativesChars_intercalate hm h]
  have hmap : (script?.map fun script => Text.trim script.toList).map String.ofList = script?.map trimmed := by
    rw [Option.map_map]
    rfl
  rw [hmap, Option.isSome_map]
  refine if_congr ?_ rfl rfl
  rw [Bool.and_eq_true, List.isEmpty_iff, trim_intercalate_eq_nil_iff hblank]

/-! ### Resolving the alternatives -/

/-- A text is a path to a value that counts. -/
def Yields (root : Tree) (text : String) (value : Tree) : Prop :=
  ∃ path, Path.parse text = .ok path ∧ path.evaluate root = .ok (some value) ∧ value.isUsable = true

/-- A text is no path, or a path to nothing that counts. -/
def Misses (root : Tree) (text : String) : Prop :=
  ∀ path, Path.parse text = .ok path →
    ∃ value?, path.evaluate root = .ok value? ∧ ∀ value ∈ value?, value.isUsable = false

variable {root : Tree}

theorem firstUsable_of_misses {before : List String} (h : ∀ text ∈ before, Misses root text) (after : List Path) :
    firstUsable root (pathsOf before ++ after) = firstUsable root after := by
  induction before with
  | nil => rfl
  | cons text rest ih =>
    have hrest := ih fun other ht => h other (List.mem_cons_of_mem _ ht)
    cases hp : Path.parse text with
    | error defect => rw [pathsOf_cons_error hp, hrest]
    | ok path =>
      obtain ⟨value?, he, hvalue⟩ := h text List.mem_cons_self path hp
      rw [pathsOf_cons_ok hp, List.cons_append, firstUsable, he, hrest]
      cases value? with
      | none => rfl
      | some value =>
        have hunusable := hvalue value rfl
        simp only [bind, Except.bind, hunusable, Bool.false_eq_true, ↓reduceIte]

theorem firstUsable_of_yields {text : String} {value : Tree} (h : Yields root text value) (after : List String) :
    firstUsable root (pathsOf (text :: after)) = .ok (some value) := by
  obtain ⟨path, hp, he, hvalue⟩ := h
  rw [pathsOf_cons_ok hp, firstUsable, he]
  simp only [bind, Except.bind, hvalue, ↓reduceIte]
  rfl

/-- The first alternative that yields a value that counts decides. -/
theorem resolve_of_yields {before : List String} (hbefore : ∀ other ∈ before, Misses root other) {text : String}
    {value : Tree} (hyields : Yields root text value) (after : List String) (script? : Option String) :
    resolve root ⟨pathsOf (before ++ text :: after), script?, false⟩ = .ok ⟨value, script?⟩ := by
  have hpaths : pathsOf (before ++ text :: after) = pathsOf before ++ pathsOf (text :: after) := List.filterMap_append
  have hfirst : firstUsable root (pathsOf (before ++ text :: after)) = .ok (some value) := by
    rw [hpaths, firstUsable_of_misses hbefore, firstUsable_of_yields hyields]
  simp only [resolve, hfirst]
  rfl

theorem resolve_of_misses (h : ∀ text ∈ texts, Misses root text) (script? : Option String) :
    resolve root ⟨pathsOf texts, script?, false⟩ = .ok ⟨.array [], none⟩ := by
  have hfirst : firstUsable root (pathsOf texts) = .ok none := by
    have hpaths := firstUsable_of_misses h []
    rwa [List.append_nil] at hpaths
  simp only [resolve, hfirst]
  rfl

/-! ### Alternatives that are no path -/

theorem isSome_rejection?_iff {text : String} :
    (rejection? text).isSome = true ↔ trimmed text ≠ "" ∧ isPath text = false := by
  unfold rejection? warning? isPath
  rw [← parse_trimmed text]
  split
  next hblank => exact iff_of_false nofun (fun h => h.1 hblank)
  next hblank => cases Path.parse (trimmed text) <;> simp [hblank, Except.toOption]

theorem pathsOf_filter_isPath (texts : List String) : pathsOf (texts.filter isPath) = pathsOf texts := by
  unfold pathsOf
  rw [List.filterMap_filter]
  refine List.filterMap_congr fun text _ => ?_
  unfold isPath
  cases (Path.parse text).toOption <;> rfl

theorem rejections_filter_isPath (texts : List String) : (texts.filter isPath).filterMap rejection? = [] := by
  refine List.filterMap_eq_nil_iff.mpr fun text ht => ?_
  rw [← Option.not_isSome_iff_eq_none, isSome_rejection?_iff]
  rintro ⟨-, hno⟩
  cases (List.mem_filter.mp ht).2.symm.trans hno

/-! ### Resolving texts of rules -/

/-- Reads the text of a rule and resolves the rule. -/
def resolveText (root : Tree) (raw : String) : Noted Resolution := do
  let rule ← parse raw false
  Noted.ofExcept (rule.resolve root)

theorem outcome_ofExcept_noted {α : Type} (x : Except Fault α) (notes : Notes) :
    outcome (Noted.ofExcept x) notes = (x, notes) := by
  cases x <;> rfl

/-- Alternatives resolve to what their paths resolve to, whatever mark is between them, and each one that is no path leaves
a warning.  If they are blank altogether, what follows them is a script for the whole document. -/
theorem outcome_resolveText {mark : String} (hmark : mark = "||" ∨ mark = "&&") (h : ∀ text ∈ texts, IsAlternative text)
    (script? : Option String) (notes : Notes) :
    outcome (resolveText root (ruleText mark texts script?)) notes =
      if HasNoText texts ∧ script?.isSome then (.ok ⟨root, script?.map trimmed⟩, notes)
      else (resolve root ⟨pathsOf texts, script?.map trimmed, false⟩,
        ⟨notes.warnings ++ texts.filterMap rejection?, notes.calls⟩) := by
  have hread : outcome (readPaths false (candidates texts)) notes =
      (.ok (pathsOf texts), ⟨notes.warnings ++ texts.filterMap rejection?, notes.calls⟩) := by
    have hends : ∀ c ∈ candidates texts, Path.parse (String.ofList c) ≠ .error .endlessIndex := by
      intro c hc
      obtain ⟨text, ht, rfl⟩ := List.mem_map.mp (List.mem_filter.mp hc).1
      exact (h text ht).parse_ne
    rw [outcome_readPaths hends, filterMap_candidates, filterMap_candidates fun text => (Path.parse text).toOption]
    have hpaths : (texts.filterMap fun text => if trimmed text = "" then none else (Path.parse (trimmed text)).toOption) =
        pathsOf texts := by
      refine List.filterMap_congr fun text _ => ?_
      split
      next hblank => exact (parse_of_blank hblank).symm
      next => exact parse_trimmed text
    rw [hpaths]
    rfl
  unfold resolveText
  rw [outcome_bind, parse_ruleText hmark h]
  by_cases hnone : HasNoText texts ∧ script?.isSome
  · rw [if_pos hnone, if_pos hnone]
    rfl
  · rw [if_neg hnone, if_neg hnone]
    simp only [outcome_bind, hread, outcome_pure, outcome_ofExcept_noted]

/-- Where there is no script, or a path, the rule is not for the whole document. -/
theorem not_scriptOnly {script? : Option String} (h : script? = none ∨ ∃ text ∈ texts, isPath text) :
    ¬ (HasNoText texts ∧ script?.isSome) := by
  rintro ⟨hnone, hscript⟩
  rcases h with rfl | ⟨text, ht, hp⟩
  · cases hscript
  · unfold isPath at hp
    rw [parse_of_blank (hnone.2 text ht)] at hp
    cases hp

theorem not_scriptOnly_filter {script? : Option String} (h : script? = none ∨ ∃ text ∈ texts, isPath text) :
    ¬ (HasNoText (texts.filter isPath) ∧ script?.isSome) := by
  refine not_scriptOnly (h.imp_right ?_)
  rintro ⟨text, ht, hp⟩
  exact ⟨text, List.mem_filter.mpr ⟨ht, hp⟩, hp⟩

/-- Alternatives resolve alike with either mark between them: to the first value that counts, with the script that follows
them, or to an empty array without it.  Those that are no path leave a warning each and nothing else, unless they are
blank.  Alternatives that are blank altogether leave the whole document to the script. -/
theorem resolve_alternatives (root : Tree) {texts : List String} (h : ∀ text ∈ texts, IsAlternative text)
    (script? : Option String) (notes : Notes) :
    let resolved := outcome (resolveText root (ruleText "||" texts script?)) notes
    outcome (resolveText root (ruleText "&&" texts script?)) notes = resolved ∧
    (HasNoText texts ∧ script?.isSome → resolved = (.ok ⟨root, script?.map trimmed⟩, notes)) ∧
    (¬ (HasNoText texts ∧ script?.isSome) →
      resolved.2 = ⟨notes.warnings ++ texts.filterMap rejection?, notes.calls⟩ ∧
      (∀ before text after value, texts = before ++ text :: after → (∀ other ∈ before, Misses root other) →
        Yields root text value → resolved.1 = .ok ⟨value, script?.map trimmed⟩) ∧
      ((∀ text ∈ texts, Misses root text) → resolved.1 = .ok ⟨.array [], none⟩)) ∧
    (script? = none ∨ (∃ text ∈ texts, isPath text) →
      outcome (resolveText root (ruleText "||" (texts.filter isPath) script?)) notes = (resolved.1, notes)) := by
  intro resolved
  have hresolved : resolved = _ := outcome_resolveText (.inl rfl) h script? notes
  refine ⟨?_, ?_, ?_, ?_⟩
  · rw [hresolved]
    exact outcome_resolveText (.inr rfl) h script? notes
  · intro hnone
    rw [hresolved, if_pos hnone]
  · intro hsome
    rw [hresolved, if_neg hsome]
    refine ⟨rfl, ?_, ?_⟩
    · rintro before text after value rfl hbefore hyields
      exact resolve_of_yields hbefore hyields after _
    · intro hmisses
      exact resolve_of_misses hmisses _
  · intro hleft
    have hkept : ∀ text ∈ texts.filter isPath, IsAlternative text := fun text ht => h text (List.mem_of_mem_filter ht)
    rw [outcome_resolveText (.inl rfl) hkept, if_neg (not_scriptOnly_filter hleft), pathsOf_filter_isPath,
      rejections_filter_isPath, List.append_nil, hresolved, if_neg (not_scriptOnly hleft)]

theorem resolve_alternatives_mixed :
    let root : Tree := .object [("a", .integer 1), ("b", .array [])]
    let texts := ["$.x", " oops ", " ", "$.b", "$.a"]
    (∀ text ∈ texts, IsAlternative text) ∧
    (let resolved := outcome (resolveText root (ruleText "||" texts (some " f "))) Notes.empty
    outcome (resolveText root (ruleText "&&" texts (some " f "))) Notes.empty = resolved ∧
    resolved = (.ok ⟨.integer 1, some "f"⟩, ⟨[.skippedAlternative (.noRoot "oops")], []⟩) ∧
    outcome (resolveText root (ruleText "||" (texts.filter isPath) (some " f "))) Notes.empty = (resolved.1, Notes.empty)) ∧
    outcome (resolveText root (ruleText "||" [" "] (some " f "))) Notes.empty = (.ok ⟨root, some "f"⟩, Notes.empty) := by
  intro root texts
  have hplain : ∀ text ∈ texts ++ [" "], '&' ∉ text.toList ∧ '|' ∉ text.toList ∧ ¬ "<js>".toList <:+: text.toList ∧
      Text.cutAnyCase? "@js:".toList text.toList = none ∧
      Text.dropHeadAnyCase? "@json:".toList (Text.trimStart text.toList) = none ∧ '[' ∉ text.toList := by decide +kernel
  have halternative (text : String) (ht : text ∈ texts ++ [" "]) : IsAlternative text := by
    obtain ⟨hampersand, hbar, hblock, htail, hmarker, hbracket⟩ := hplain text ht
    refine ⟨hampersand, hbar, hblock, htail, hmarker, fun before digits after hcs _ => absurd ?_ hbracket⟩
    rw [hcs]
    exact List.mem_append_right _ List.mem_cons_self
  have htexts : ∀ text ∈ texts, IsAlternative text := fun text ht => halternative text (List.mem_append_left _ ht)
  have hblank : ∀ text ∈ [" "], IsAlternative text := fun text ht => halternative text (List.mem_append_right _ ht)
  have hyields : Yields root "$.a" (.integer 1) := ⟨⟨"$.a", [.field "a"]⟩, by decide +kernel, rfl, rfl⟩
  have hmisses : ∀ other ∈ ["$.x", " oops ", " ", "$.b"], Misses root other := by
    intro other hother path hp
    simp only [List.mem_cons, List.not_mem_nil, or_false] at hother
    rcases hother with rfl | rfl | rfl | rfl
    · have hx : Path.parse "$.x" = .ok ⟨"$.x", [.field "x"]⟩ := by decide +kernel
      obtain rfl := Except.ok.inj (hx.symm.trans hp)
      exact ⟨none, rfl, nofun⟩
    · have hoops : Path.parse " oops " = .error (.noRoot " oops ") := by decide +kernel
      cases hoops.symm.trans hp
    · have hempty : Path.parse " " = .error (.noRoot " ") := by decide +kernel
      cases hempty.symm.trans hp
    · have hb : Path.parse "$.b" = .ok ⟨"$.b", [.field "b"]⟩ := by decide +kernel
      obtain rfl := Except.ok.inj (hb.symm.trans hp)
      exact ⟨some (.array []), rfl, fun value hvalue => by cases hvalue; rfl⟩
  obtain ⟨hmarks, -, hsome, hkept⟩ := resolve_alternatives root htexts (some " f ") Notes.empty
  obtain ⟨-, hscript, -⟩ := resolve_alternatives root hblank (some " f ") Notes.empty
  obtain ⟨hnotes, hfound, -⟩ := hsome (by decide +kernel)
  refine ⟨htexts, ⟨hmarks, ?_, hkept (.inr ⟨"$.a", by decide, by decide +kernel⟩)⟩, hscript (by decide +kernel)⟩
  have hvalue := hfound ["$.x", " oops ", " ", "$.b"] "$.a" [] (.integer 1) rfl hmisses hyields
  have hwarnings : texts.filterMap rejection? = [.skippedAlternative (.noRoot "oops")] := by decide +kernel
  rw [hwarnings] at hnotes
  exact Prod.ext hvalue hnotes

/-- A blank alternative is no path and is skipped without a warning, a script after nothing but blanks is for the whole
document, and the marker is taken off in any letter case and after blanks. -/
theorem resolve_blank_alternatives :
    let root : Tree := .object [("a", .integer 1)]
    Path.parse "" = .error (.noRoot "") ∧
    outcome (resolveText root (ruleText "||" ["", "$.a"] none)) Notes.empty = (.ok ⟨.integer 1, none⟩, Notes.empty) ∧
    outcome (resolveText root (ruleText "||" [""] (some "f"))) Notes.empty = (.ok ⟨root, some "f"⟩, Notes.empty) ∧
    Path.parse " @JSON:$.a" = .error (.noRoot " @JSON:$.a") ∧
    outcome (resolveText root (ruleText "||" [" @JSON:$.a"] none)) Notes.empty = (.ok ⟨.integer 1, none⟩, Notes.empty) := by
  refine ⟨?_, ?_, ?_, ?_, ?_⟩
  · decide +kernel
  · rfl
  · rfl
  · decide +kernel
  · rfl

end Rule

end SiteReader
