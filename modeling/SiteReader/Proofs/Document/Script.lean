import SiteReader.Proofs.Document.Fault
import SiteReader.Proofs.Document.Note

/-!
# Calls of evaluators

The script of a field's rule is run once at most.  It is given what the rest of the rule finds, or the whole document where
there is no rest, and it is not run where nothing is found (`evaluator_called`).  A rule for a tree finds nothing either where
it fails before a value that counts has been found, also if a later alternative would lead to one
(`evaluator_not_called_overflow`).
-/

namespace SiteReader

open Double (overflowBound)
open Noted (Adds IsSilent Mirrors)

/-! ### What is found in trees -/

namespace Rule

/-- A path leads to a value that counts. -/
def Counts (root : Tree) (path : Path) (value : Tree) : Prop :=
  path.evaluate root = .ok (some value) ∧ value.isUsable = true

/-- The first of some paths that lead to a value that counts leads to this one. -/
def FirstCounts (root : Tree) (paths : List Path) (value : Tree) : Prop :=
  ∃ before path after, paths = before ++ path :: after ∧ (∀ other ∈ before, ∀ found, ¬ Counts root other found) ∧
    Counts root path value

variable {root : Tree} {rule : String} {value : Tree}

theorem firstCounts_cons_iff {path : Path} {rest : List Path} :
    FirstCounts root (path :: rest) value ↔
      Counts root path value ∨ (∀ found, ¬ Counts root path found) ∧ FirstCounts root rest value :=
  exists_first_cons_iff

variable {path : Path}

/-- A path overflows, or leads to nothing that counts, or to a value that does. -/
theorem path_cases (root : Tree) (path : Path) :
    path.Overflows root ∨ FindsNothing root path ∨ ∃ found, Counts root path found := by
  cases he : path.evaluate root with
  | error fault => exact .inl (Path.evaluate_eq_error_iff.mp he).2
  | ok value? =>
    right
    cases value? with
    | none => exact .inl ⟨none, he, nofun⟩
    | some found =>
      cases hu : found.isUsable with
      | true => exact .inr ⟨found, he, hu⟩
      | false => exact .inl ⟨some found, he, by simpa using hu⟩

theorem not_counts_of_findsNothing (h : FindsNothing root path) (found : Tree) : ¬ Counts root path found := by
  rintro ⟨he, hu⟩
  obtain ⟨value?, hnothing, hno⟩ := h
  obtain rfl := Except.ok.inj (hnothing.symm.trans he)
  cases (hno found rfl).symm.trans hu

theorem firstUsable_of_counts (h : Counts root path value) (rest : List Path) :
    firstUsable root (path :: rest) = .ok (some value) := by
  simp [firstUsable, h.1, h.2, bind, Except.bind, pure, Except.pure]

theorem firstUsable_of_findsNothing (h : FindsNothing root path) (rest : List Path) :
    firstUsable root (path :: rest) = firstUsable root rest := by
  obtain ⟨value?, he, hno⟩ := h
  cases value? with
  | none => simp [firstUsable, he, bind, Except.bind]
  | some found => simp [firstUsable, he, hno found rfl, bind, Except.bind]

/-- Alternatives give the value of the first one that counts, unless one overflows before. -/
theorem firstUsable_eq_some_iff {paths : List Path} :
    firstUsable root paths = .ok (some value) ↔ ¬ OverflowsFirst root paths ∧ FirstCounts root paths value := by
  induction paths with
  | nil =>
    refine iff_of_false nofun ?_
    rintro ⟨-, before, path, after, hpaths, -⟩
    exact absurd hpaths (by simp)
  | cons path rest ih =>
    rw [overflowsFirst_cons_iff, firstCounts_cons_iff]
    rcases path_cases root path with hover | hnothing | ⟨found, hcounts⟩
    · have hfails : firstUsable root (path :: rest) = .error .overflow :=
        firstUsable_eq_error_iff.mpr ⟨rfl, overflowsFirst_cons_iff.mpr (.inl hover)⟩
      simp [hfails, hover]
    · obtain ⟨value?, he, -⟩ := id hnothing
      rw [firstUsable_of_findsNothing hnothing, ih]
      simp [Path.not_overflows_of_ok he, hnothing, not_counts_of_findsNothing hnothing]
    · have hsomething : ¬ FindsNothing root path := fun hnothing => not_counts_of_findsNothing hnothing found hcounts
      have hunique : Counts root path value ↔ found = value := by
        refine ⟨fun h => Option.some.inj (Except.ok.inj (hcounts.1.symm.trans h.1)), ?_⟩
        rintro rfl
        exact hcounts
      have hno : ¬ ∀ other, ¬ Counts root path other := fun hno => hno found hcounts
      rw [firstUsable_of_counts hcounts]
      simp [Path.not_overflows_of_ok hcounts.1, hsomething, hunique, hno]

/-- What the script of a rule is given in a tree: the whole tree if the rule has no paths, or else the value that the rule
finds, if it does not fail. -/
def IsScriptInput (root : Tree) (rule : String) (value : Tree) : Prop :=
  if (partsOf rule).1 = [] then root = value ∧ root ≠ .array []
  else (∀ fault, ¬ Breaks root true rule fault) ∧ FirstCounts root (readingOf rule true).paths value

end Rule

theorem Tree.isUsable_iff_of_isContainer {t : Tree} (h : t.isContainer = true) : t.isUsable = true ↔ t ≠ .array [] := by
  cases t with
  | array items => cases items <;> simp [isUsable]
  | object fields => simp [isUsable]
  | _ => cases h

/-- The call for a resolution, if it has a script and something has been found. -/
def Resolution.call? (resolution : Resolution) : Option (String × Tree) :=
  if resolution.isFound then resolution.script?.map fun script => (script, resolution.value) else none

theorem Resolution.adds_apply (evaluator : Evaluator) (resolution : Resolution) :
    ∃ value, Adds (resolution.apply (some evaluator)) (.ok value) [] resolution.call?.toList := by
  unfold apply call?
  cases resolution.script? with
  | none =>
    refine ⟨resolution.value, ?_⟩
    simpa using Adds.pure resolution.value
  | some script =>
    cases resolution.isFound with
    | true => exact ⟨_, adds_runScript evaluator script resolution.value⟩
    | false => exact ⟨_, .pure resolution.value⟩

namespace Rule

variable {root : Tree} {rule script : String} {value : Tree}

theorem resolve_call_iff {r : Rule} :
    (∃ resolution, r.resolve root = .ok resolution ∧ resolution.call? = some (script, value)) ↔
      r.script? = some script ∧
        if r.scriptOnly then root = value ∧ root.isUsable = true else firstUsable root r.paths = .ok (some value) := by
  unfold resolve
  cases r.scriptOnly with
  | true =>
    cases hu : root.isUsable <;> simp [Resolution.call?, Resolution.isFound, hu]
  | false =>
    cases hfound : firstUsable root r.paths with
    | error fault => simp [bind, Except.bind]
    | ok found? =>
      cases found? with
      | none => simp [bind, Except.bind, pure, Except.pure, Resolution.call?]
      | some found =>
        obtain ⟨-, before, path, after, -, -, -, hu⟩ := firstUsable_eq_some_iff.mp hfound
        simp [bind, Except.bind, pure, Except.pure, Resolution.call?, Resolution.isFound, hu]

theorem not_endless_of_no_text {bareKeys : Bool} (h : (partsOf rule).1 = []) : ¬ Endless rule bareKeys := by
  rintro ⟨text, htext, -⟩
  rw [alternativesOf_of_no_text h] at htext
  cases htext

/-- The script of a rule is called for what the rule comes to, if that is found. -/
theorem outcome_call_iff (hc : root.isContainer = true) (notes : Notes) :
    (∃ resolution, (outcome (do let rule ← parse rule true; Noted.ofExcept (rule.resolve root)) notes).1 = .ok resolution ∧
        resolution.call? = some (script, value)) ↔
      (partsOf rule).2.map String.ofList = some script ∧ IsScriptInput root rule value := by
  by_cases hends : Endless rule true
  · refine iff_of_false ?_ ?_
    · rintro ⟨resolution, hok, -⟩
      cases hok.symm.trans (outcome_resolve_eq_error_iff.mpr (.inl ⟨rfl, hends⟩))
    · rintro ⟨-, hinput⟩
      rw [IsScriptInput, if_neg fun hnil => not_endless_of_no_text hnil hends] at hinput
      exact hinput.1 _ (.inl ⟨rfl, hends⟩)
  · have hread (resolution : Resolution) :
        (outcome (do let rule ← parse rule true; Noted.ofExcept (rule.resolve root)) notes).1 = .ok resolution ↔
          (readingOf rule true).resolve root = .ok resolution := by
      rw [outcome_bind_of_ok (outcome_parse_of_not_endless hends notes), outcome_ofExcept_noted]
    have hbreaks : (∀ fault, ¬ Breaks root true rule fault) ↔ ¬ OverflowsFirst root (readingOf rule true).paths := by
      simp [Breaks, hends]
    simp only [hread]
    rw [resolve_call_iff, script?_readingOf, scriptOnly_readingOf]
    refine and_congr_right fun hscript => ?_
    obtain ⟨chars, hchars, -⟩ := Option.map_eq_some_iff.mp hscript
    rw [IsScriptInput, hbreaks, ← firstUsable_eq_some_iff, Tree.isUsable_iff_of_isContainer hc]
    simp [hchars]

end Rule

theorem Tree.calls_fieldText (evaluator : Evaluator) {root : Tree} (hc : root.isContainer = true) {rule : String}
    (h : Text.hasMark ['{', '{'] rule.toList = false) (notes : Notes) :
    ∃ call?, (outcome (root.fieldText (some evaluator) rule) notes).2.calls = notes.calls ++ call?.toList ∧
      ∀ script value, call? = some (script, value) ↔
        (Rule.partsOf rule).2.map String.ofList = some script ∧ Rule.IsScriptInput root rule value := by
  obtain ⟨result, warnings, hx⟩ : IsSilent (do let rule ← Rule.parse rule true; Noted.ofExcept (rule.resolve root)) :=
    (Rule.isSilent_parse rule true).bind fun _ => .ofExcept _
  simp only [← Rule.outcome_call_iff hc notes, fieldText_of_no_template h, hx notes]
  cases result with
  | error fault =>
    refine ⟨none, ?_, by simp⟩
    rw [hx.bind_error notes]
    rfl
  | ok resolution =>
    obtain ⟨value, happly⟩ := resolution.adds_apply evaluator
    refine ⟨resolution.call?, ?_, by simp⟩
    rw [hx.bind (happly.bind (.pure value.asField)) notes]
    simp

/-! ### What is found in pages -/

namespace Excerpt

/-- What the script of a rule is given in a page: the whole page if the rule has no selector, or else the text that is
selected, if there is any. -/
def IsScriptInput (html base rule text : String) : Prop :=
  if selectorOf rule = [] then text = html
  else text ≠ "" ∧ (outcome (selectText html (String.ofList (selectorOf rule)) base) Notes.empty).1 = .ok text

theorem calls_fieldText (evaluator : Evaluator) (html base rule : String) (notes : Notes) :
    ∃ call?, (outcome (fieldText (some evaluator) html base rule) notes).2.calls = notes.calls ++ call?.toList ∧
      ∀ script value, call? = some (script, value) ↔
        (Rule.splitScriptChars rule.toList).2.map String.ofList = some script ∧
          ∃ text, value = .text text ∧ IsScriptInput html base rule text := by
  have hselect : IsSilent (selectText html (String.ofList (selectorOf rule)) base) := isSilent_selectText _ _ _
  have hrun (script : List Char) (text : String) : Adds
      (do return (← runScript (some evaluator) (String.ofList script) (.text text)).asField)
      (.ok (evaluator (String.ofList script) (.text text)).asField) [] [(String.ofList script, .text text)] :=
    (adds_runScript evaluator (String.ofList script) (.text text)).bind (.pure _)
  rw [fieldText_eq]
  cases (Rule.splitScriptChars rule.toList).2 with
  | none =>
    refine ⟨none, ?_, by simp⟩
    dsimp only
    rw [hselect.calls notes, Option.toList_none, List.append_nil]
  | some chars =>
    unfold IsScriptInput
    by_cases hempty : selectorOf rule = []
    · simp only [hempty, List.isEmpty_nil, ↓reduceIte]
      refine ⟨some (String.ofList chars, .text html), ?_, by simp [eq_comm]⟩
      rw [hrun chars html notes]
      rfl
    · obtain ⟨result, warnings, hx⟩ := hselect
      simp only [List.isEmpty_iff, hempty, ↓reduceIte, hx Notes.empty]
      cases result with
      | error fault =>
        refine ⟨none, ?_, by simp⟩
        rw [hx.bind_error notes]
        rfl
      | ok text =>
        rw [outcome_bind, hx notes]
        by_cases htext : text = ""
        · refine ⟨none, ?_, by simp [htext]⟩
          simp [htext]
        · refine ⟨some (String.ofList chars, .text text), ?_, ?_⟩
          · have hgoes : ¬ (text.isEmpty || (some evaluator).isNone) = true := by simp [htext]
            simp only [if_neg hgoes]
            rw [hrun]
            simp
          · intro script value
            simp [htext, eq_comm]

end Excerpt

/-! ### Documents -/

namespace Document

/-- The script of a rule.  For a tree, the rule may start with the marker of paths. -/
def scriptOf? (rule : String) : Document → Option String
  | tree _ => (Rule.partsOf rule).2.map String.ofList
  | page _ => (Rule.splitScriptChars rule.toList).2.map String.ofList

/-- What the script of a rule is given in a document. -/
def IsScriptInput (base rule : String) : Document → Tree → Prop
  | tree root, value => Rule.IsScriptInput root rule value
  | page html, value => ∃ text, value = .text text ∧ Excerpt.IsScriptInput html base rule text

theorem trimmed_of_scriptOf? {rule script : String} {document : Document} (h : document.scriptOf? rule = some script) :
    trimmed script = script := by
  have hsplit {cs : List Char} (h : (Rule.splitScriptChars cs).2.map String.ofList = some script) :
      trimmed script = script := by
    obtain ⟨chars, hchars, rfl⟩ := Option.map_eq_some_iff.mp h
    unfold Rule.splitScriptChars at hchars
    split at hchars
    next paths found _ =>
      obtain rfl := Option.some.inj hchars
      rw [trimmed, String.toList_ofList, Text.trim_trim]
    next => cases hchars
  cases document with
  | tree root => exact hsplit h
  | page html => exact hsplit h

theorem scriptOf?_empty (document : Document) : document.scriptOf? "" = none := by
  cases document <;> rfl

/-- A field calls the evaluator once at most: if and only if its rule has a script, and then for what the rest of the rule
finds, if it finds anything.  An evaluator that gives its value back comes to the same as none, for fields and for rows. -/
theorem evaluator_called (evaluator : Evaluator) (base rule : String) (document : Document) :
    ((∀ root, document = .tree root → root.isContainer = true ∧ ¬ ['{', '{'] <:+: rule.toList) →
      (∀ notes, ∃ call?,
        (outcome (document.fieldText (some evaluator) base rule) notes).2.calls = notes.calls ++ call?.toList ∧
          ∀ script value, call? = some (script, value) ↔
            document.scriptOf? rule = some script ∧ document.IsScriptInput base rule value) ∧
      ∀ script, document.scriptOf? rule = some script → trimmed script = script) ∧
    Mirrors (document.fieldText none base rule) (document.fieldText (some passthrough) base rule) ∧
    ∀ listRule fields,
      Mirrors (document.rows none base listRule fields) (document.rows (some passthrough) base listRule fields) := by
  refine ⟨fun h => ⟨fun notes => ?_, fun script => trimmed_of_scriptOf?⟩, document.mirrors_fieldText base rule,
    fun listRule fields => document.mirrors_rows base listRule fields⟩
  by_cases hrule : rule = ""
  · subst hrule
    exact ⟨none, (List.append_nil _).symm, by simp [scriptOf?_empty]⟩
  · rw [fieldText_of_ne hrule]
    cases document with
    | tree root =>
      obtain ⟨hc, hno⟩ := h root rfl
      exact root.calls_fieldText evaluator hc (Bool.eq_false_iff.mpr (Text.hasMark_iff.not.mpr hno)) notes
    | page html => exact Excerpt.calls_fieldText evaluator html base rule notes

/-- The text of an element is given to the script. -/
theorem evaluator_called_selected :
    let document := page "<p>a</p>"
    let rule := "@CSS:p<js> f </js>"
    ((∀ root, document = .tree root → root.isContainer = true ∧ ¬ ['{', '{'] <:+: rule.toList) ∧
        document.scriptOf? rule = some "f" ∧ document.IsScriptInput "" rule (.text "a")) ∧
      (outcome (document.fieldText (some passthrough) "" rule) Notes.empty).2.calls = [("f", .text "a")] := by
  intro document rule
  have hpage : ∀ root, document = .tree root → root.isContainer = true ∧ ¬ ['{', '{'] <:+: rule.toList := nofun
  have hscript : document.scriptOf? rule = some "f" := by decide +kernel
  have hinput : document.IsScriptInput "" rule (.text "a") := by
    have hselector : Excerpt.selectorOf rule = ['p'] := by decide +kernel
    refine ⟨"a", rfl, ?_⟩
    rw [Excerpt.IsScriptInput, hselector, if_neg (by decide)]
    exact ⟨by decide, by decide +kernel⟩
  obtain ⟨call?, hcalls, hcall⟩ := ((evaluator_called passthrough "" rule document).1 hpage).1 Notes.empty
  obtain rfl := (hcall "f" (.text "a")).mpr ⟨hscript, hinput⟩
  exact ⟨⟨hpage, hscript, hinput⟩, hcalls⟩

/-- A path overflows and the evaluator is not called, although the alternative after it leads to a value that counts. -/
theorem evaluator_not_called_overflow :
    let root : Tree := .object [("a", .integer overflowBound), ("b", .integer 1)]
    let rule := "$..[?(@.a==1)]||$.b<js>f</js>"
    (¬ ['{', '{'] <:+: rule.toList ∧ (tree root).scriptOf? rule = some "f" ∧ (Rule.partsOf rule).1 ≠ [] ∧
      Rule.FirstCounts root (Rule.readingOf rule true).paths (.integer 1)) ∧
      (outcome ((tree root).fieldText (some passthrough) "" rule) Notes.empty).1 = .error .overflow ∧
      (outcome ((tree root).fieldText (some passthrough) "" rule) Notes.empty).2.calls = [] := by
  intro root rule
  have hparts : Rule.partsOf rule = ("$..[?(@.a==1)]||$.b".toList, some "f".toList) := by decide +kernel
  have hno : Text.hasMark ['{', '{'] rule.toList = false := by decide +kernel
  have halternatives : Rule.alternativesOf rule true = ["$..[?(@.a==1)]", "$.b"] := by decide +kernel
  have hfirst : Path.parse "$..[?(@.a==1)]" = .ok ⟨"$..[?(@.a==1)]", [.filter "a" (some "1")]⟩ := by rfl
  have hsecond : Path.parse "$.b" = .ok ⟨"$.b", [.field "b"]⟩ := by rfl
  have hends : ¬ Rule.Endless rule true := by simp [Rule.endless_iff, halternatives, hfirst, hsecond]
  have hpaths : (Rule.readingOf rule true).paths =
      [⟨"$..[?(@.a==1)]", [.filter "a" (some "1")]⟩, ⟨"$.b", [.field "b"]⟩] := by
    rw [Rule.paths_readingOf, halternatives, Rule.pathsOf_cons_ok hfirst, Rule.pathsOf_cons_ok hsecond]
    rfl
  have hover : (⟨"$..[?(@.a==1)]", [.filter "a" (some "1")]⟩ : Path).Overflows root := by
    refine Path.overflows_cons_iff.mpr (.inl ⟨"a", "1", rfl, root, ?_, ?_⟩)
    · rw [Tree.preorder_eq]
      exact List.mem_cons_self
    · exact Tree.overflows_iff.mpr ⟨by decide, _, rfl, Nat.le_of_eq (Int.natAbs_natCast overflowBound).symm⟩
  have hbreaks : Rule.Breaks root true rule .overflow := .inr ⟨rfl, hends, [], _, _, hpaths, nofun, hover⟩
  have hcounts : Rule.FirstCounts root (Rule.readingOf rule true).paths (.integer 1) := by
    rw [hpaths]
    refine ⟨[_], _, [], rfl, List.forall_mem_singleton.mpr fun found hfound => ?_, rfl, rfl⟩
    cases hfound.1.symm.trans (Path.evaluate_eq_error_iff.mpr ⟨rfl, hover⟩)
  have hne : (Rule.partsOf rule).1 ≠ [] := by
    rw [hparts]
    decide
  have hscript : (tree root).scriptOf? rule = some "f" := by
    rw [scriptOf?, hparts]
    rfl
  refine ⟨⟨Text.hasMark_iff.not.mp (Bool.eq_false_iff.mp hno), hscript, hne, hcounts⟩, ?_, ?_⟩
  · rw [outcome_treeField_eq_error_iff, Tree.FieldBreaks, hno]
    exact hbreaks
  · rw [fieldText_of_ne (by decide)]
    obtain ⟨call?, hcalls, hcall⟩ := root.calls_fieldText passthrough rfl hno Notes.empty
    cases call? with
    | none => exact hcalls
    | some call =>
      obtain ⟨-, hinput⟩ := (hcall call.1 call.2).mp rfl
      rw [Rule.IsScriptInput, if_neg hne] at hinput
      exact absurd hbreaks (hinput.1 _)

end Document

end SiteReader
