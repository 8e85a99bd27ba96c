import SiteReader.Proofs.Path.Evaluation
import SiteReader.Proofs.Rule.Alternatives

/-!
# Reading any text as a rule

Whatever the text of a rule is, its alternatives (`alternativesOf`) are read one after the other: the paths among them are
kept and each of the others leaves a warning (`outcome_parse`), unless one of them has an index with too many digits
(`Endless`).  A rule that has been read is resolved, unless one of its paths overflows before a value that counts has been
found (`resolve_eq_error_iff`).  Both together are all that can go wrong with a rule for trees
(`outcome_resolve_eq_error_iff`).
-/

namespace SiteReader

namespace Rule

/-! ### The parts of a rule -/

/-- The text of the alternatives of a rule, and the script after them. -/
def partsOf (raw : String) : List Char × Option (List Char) :=
  splitScriptChars (dropMarker "@json:".toList raw.toList)

/-- The path that a chain of plain names is short for, where it may be; any other text as it is. -/
def expanded (bareKeys : Bool) (candidate : List Char) : String :=
  String.ofList (if bareKeys && isBareKey candidate then '$' :: '.' :: candidate else candidate)

/-- The texts that are read as paths when a rule is read. -/
def alternativesOf (raw : String) (bareKeys : Bool) : List String :=
  (splitAlternativesChars (partsOf raw).1).map (expanded bareKeys)

/-- What a text is read to: the paths among its alternatives, and its script, which is for the whole document if there is no
other text. -/
def readingOf (raw : String) (bareKeys : Bool) : Rule :=
  ⟨pathsOf (alternativesOf raw bareKeys), (partsOf raw).2.map String.ofList, (partsOf raw).1.isEmpty && (partsOf raw).2.isSome⟩

theorem paths_readingOf (raw : String) (bareKeys : Bool) :
    (readingOf raw bareKeys).paths = pathsOf (alternativesOf raw bareKeys) := by
  rw [readingOf]

theorem script?_readingOf (raw : String) (bareKeys : Bool) :
    (readingOf raw bareKeys).script? = (partsOf raw).2.map String.ofList := by
  rw [readingOf]

theorem scriptOnly_readingOf (raw : String) (bareKeys : Bool) :
    (readingOf raw bareKeys).scriptOnly = ((partsOf raw).1.isEmpty && (partsOf raw).2.isSome) := by
  rw [readingOf]

/-- One of the alternatives has an index with too many digits. -/
def Endless (raw : String) (bareKeys : Bool) : Prop :=
  ∃ text ∈ alternativesOf raw bareKeys, Path.EndlessIndex (Text.trim text.toList)

theorem endless_iff {raw : String} {bareKeys : Bool} :
    Endless raw bareKeys ↔ ∃ text ∈ alternativesOf raw bareKeys, Path.parse text = .error .endlessIndex := by
  have hparse (text : String) : Path.EndlessIndex (Text.trim text.toList) ↔ Path.parse text = .error .endlessIndex :=
    ⟨Path.parse_of_endlessIndex, .of_parse⟩
  simp only [Endless, hparse]

/-! ### Reading -/

theorem readPaths_eq (bareKeys : Bool) (cs : List (List Char)) :
    readPaths bareKeys cs = readPaths false (cs.map fun c => (expanded bareKeys c).toList) := by
  induction cs with
  | nil => rfl
  | cons c rest ih =>
    rw [List.map_cons, readPaths, readPaths, ih]
    simp only [Bool.false_and, Bool.false_eq_true, ↓reduceIte, String.ofList_toList, expanded]

/-- Reading ends at an index with too many digits. -/
theorem outcome_readPaths_endless {cs : List (List Char)}
    (h : ∃ c ∈ cs, Path.parse (String.ofList c) = .error .endlessIndex) (notes : Notes) :
    (outcome (readPaths false cs) notes).1 = .error .endlessNumeral := by
  induction cs generalizing notes with
  | nil =>
    obtain ⟨c, hc, -⟩ := h
    cases hc
  | cons c rest ih =>
    have hrest (hc : Path.parse (String.ofList c) ≠ .error .endlessIndex) :
        ∃ c ∈ rest, Path.parse (String.ofList c) = .error .endlessIndex := by
      obtain ⟨d, hd, hparse⟩ := h
      rcases List.mem_cons.mp hd with rfl | hd
      · exact absurd hparse hc
      · exact ⟨d, hd, hparse⟩
    rw [readPaths]
    simp only [Bool.false_and, Bool.false_eq_true, ↓reduceIte]
    cases hp : Path.parse (String.ofList c) with
    | ok path =>
      exact outcome_bind_eq_error_iff.mpr (.inl (ih (hrest (by simp [hp])) notes))
    | error defect =>
      cases defect with
      | endlessIndex => rfl
      | _ =>
        exact outcome_bind_eq_error_iff.mpr (.inr ⟨(), rfl, ih (hrest (by simp [hp])) _⟩)

theorem splitAlternativesChars_nil : splitAlternativesChars [] = [] := by
  simp [splitAlternativesChars, Text.hasMark, Text.cut?, Text.trim, Text.trimBoth, Text.trimRight]

theorem alternativesOf_of_no_text {raw : String} {bareKeys : Bool} (h : (partsOf raw).1 = []) :
    alternativesOf raw bareKeys = [] := by
  rw [alternativesOf, h, splitAlternativesChars_nil, List.map_nil]

theorem alternativesOf_scriptOnly {raw : String} {bareKeys : Bool} (h : (readingOf raw bareKeys).scriptOnly = true) :
    alternativesOf raw bareKeys = [] := by
  rw [scriptOnly_readingOf, Bool.and_eq_true, List.isEmpty_iff] at h
  exact alternativesOf_of_no_text h.1

theorem parse_eq (raw : String) (bareKeys : Bool) :
    parse raw bareKeys = do
      return ⟨← readPaths false ((alternativesOf raw bareKeys).map String.toList), (readingOf raw bareKeys).script?,
        (readingOf raw bareKeys).scriptOnly⟩ := by
  rw [parse_of_split (Prod.eta (partsOf raw)).symm, ← scriptOnly_readingOf raw bareKeys]
  cases honly : (readingOf raw bareKeys).scriptOnly with
  | true =>
    rw [alternativesOf_scriptOnly honly, script?_readingOf]
    rfl
  | false =>
    rw [alternativesOf, List.map_map, readPaths_eq, script?_readingOf]
    rfl

/-- Any text is read as a rule: its paths are kept, and the other alternatives leave a warning each.  An index with too many
digits is no such defect. -/
theorem outcome_parse (raw : String) (bareKeys : Bool) (notes : Notes) :
    (¬ Endless raw bareKeys → outcome (parse raw bareKeys) notes = (.ok (readingOf raw bareKeys),
      ⟨notes.warnings ++ (alternativesOf raw bareKeys).filterMap warning?, notes.calls⟩)) ∧
    (Endless raw bareKeys → (outcome (parse raw bareKeys) notes).1 = .error .endlessNumeral) := by
  constructor
  · intro hends
    have hread : ∀ c ∈ (alternativesOf raw bareKeys).map String.toList, Path.parse (String.ofList c) ≠ .error .endlessIndex := by
      intro c hc hparse
      obtain ⟨text, ht, rfl⟩ := List.mem_map.mp hc
      rw [String.ofList_toList] at hparse
      exact hends (endless_iff.mpr ⟨text, ht, hparse⟩)
    have hmap {β : Type} (f : String → Option β) (texts : List String) :
        (texts.map String.toList).filterMap (fun c => f (String.ofList c)) = texts.filterMap f := by
      simp [List.filterMap_map]
    rw [parse_eq, outcome_bind, outcome_readPaths hread, hmap warning?, hmap fun text => (Path.parse text).toOption]
    simp only [outcome_pure, readingOf, pathsOf]
  · intro hendless
    obtain ⟨text, ht, hparse⟩ := endless_iff.mp hendless
    have hread : ∃ c ∈ (alternativesOf raw bareKeys).map String.toList, Path.parse (String.ofList c) = .error .endlessIndex := by
      refine ⟨text.toList, List.mem_map_of_mem ht, ?_⟩
      rwa [String.ofList_toList]
    rw [parse_eq]
    exact outcome_bind_eq_error_iff.mpr (.inl (outcome_readPaths_endless hread notes))

theorem outcome_parse_of_not_endless {raw : String} {bareKeys : Bool} (h : ¬ Endless raw bareKeys) (notes : Notes) :
    (outcome (parse raw bareKeys) notes).1 = .ok (readingOf raw bareKeys) :=
  congrArg Prod.fst ((outcome_parse raw bareKeys notes).1 h)

/-! ### Resolving -/

/-- The path leads to nothing that counts. -/
def FindsNothing (root : Tree) (path : Path) : Prop :=
  ∃ value?, path.evaluate root = .ok value? ∧ ∀ value ∈ value?, value.isUsable = false

/-- One of some paths overflows, and those before it lead to nothing. -/
def OverflowsFirst (root : Tree) (paths : List Path) : Prop :=
  ∃ before path after, paths = before ++ path :: after ∧ (∀ other ∈ before, FindsNothing root other) ∧ path.Overflows root

/-- The first item of a kind is the head of a list, or the head is passed over. -/
theorem exists_first_cons_iff {α : Type} {P Q : α → Prop} {a : α} {l : List α} :
    (∃ before b after, a :: l = before ++ b :: after ∧ (∀ c ∈ before, P c) ∧ Q b) ↔
      Q a ∨ P a ∧ ∃ before b after, l = before ++ b :: after ∧ (∀ c ∈ before, P c) ∧ Q b := by
  constructor
  · rintro ⟨before, b, after, hl, hbefore, hb⟩
    cases before with
    | nil =>
      obtain ⟨rfl, -⟩ := List.cons.inj hl
      exact .inl hb
    | cons first before =>
      obtain ⟨rfl, rfl⟩ := List.cons.inj hl
      obtain ⟨hfirst, hbefore⟩ := List.forall_mem_cons.mp hbefore
      exact .inr ⟨hfirst, before, b, after, rfl, hbefore, hb⟩
  · rintro (ha | ⟨ha, before, b, after, rfl, hbefore, hb⟩)
    · exact ⟨[], a, l, rfl, List.forall_mem_nil _, ha⟩
    · exact ⟨a :: before, b, after, rfl, List.forall_mem_cons.mpr ⟨ha, hbefore⟩, hb⟩

theorem overflowsFirst_cons_iff {root : Tree} {path : Path} {rest : List Path} :
    OverflowsFirst root (path :: rest) ↔ path.Overflows root ∨ FindsNothing root path ∧ OverflowsFirst root rest :=
  exists_first_cons_iff

theorem firstUsable_eq_error_iff {root : Tree} {paths : List Path} {fault : Fault} :
    firstUsable root paths = .error fault ↔ fault = .overflow ∧ OverflowsFirst root paths := by
  induction paths with
  | nil =>
    refine iff_of_false nofun ?_
    rintro ⟨-, before, path, after, hpaths, -⟩
    exact absurd hpaths (by simp)
  | cons path rest ih =>
    rw [overflowsFirst_cons_iff, firstUsable]
    cases he : path.evaluate root with
    | error other =>
      obtain ⟨rfl, hover⟩ := Path.evaluate_eq_error_iff.mp he
      simp [hover, bind, Except.bind, eq_comm]
    | ok value? =>
      have hnothing : FindsNothing root path ↔ ∀ value ∈ value?, value.isUsable = false := by
        simp [FindsNothing, he]
      rw [hnothing, or_iff_right (Path.not_overflows_of_ok he)]
      cases value? with
      | none => simp [bind, Except.bind, ih]
      | some value => cases hu : value.isUsable <;> simp [bind, Except.bind, pure, Except.pure, hu, ih]

theorem resolve_eq_error_iff {root : Tree} {rule : Rule} {fault : Fault} :
    rule.resolve root = .error fault ↔ rule.scriptOnly = false ∧ fault = .overflow ∧ OverflowsFirst root rule.paths := by
  rw [resolve, ← firstUsable_eq_error_iff]
  cases rule.scriptOnly with
  | true => simp
  | false =>
    cases firstUsable root rule.paths with
    | error other => simp [bind, Except.bind]
    | ok value? => cases value? <;> simp [bind, Except.bind, pure, Except.pure]

/-- What makes a rule fail on a tree: an alternative with an endless index, or a path that overflows before a value that
counts has been found. -/
def Breaks (root : Tree) (bareKeys : Bool) (raw : String) (fault : Fault) : Prop :=
  fault = .endlessNumeral ∧ Endless raw bareKeys ∨
    fault = .overflow ∧ ¬ Endless raw bareKeys ∧ OverflowsFirst root (readingOf raw bareKeys).paths

/-- Reading a rule and resolving it fails in these ways only. -/
theorem outcome_resolve_eq_error_iff {root : Tree} {bareKeys : Bool} {raw : String} {notes : Notes} {fault : Fault} :
    (outcome (do let rule ← parse raw bareKeys; Noted.ofExcept (rule.resolve root)) notes).1 = .error fault ↔
      Breaks root bareKeys raw fault := by
  obtain ⟨hends, hendless⟩ := outcome_parse raw bareKeys notes
  rw [outcome_bind_eq_error_iff, Breaks]
  by_cases h : Endless raw bareKeys
  · simp [hendless h, h, eq_comm]
  · have hscript : OverflowsFirst root (readingOf raw bareKeys).paths → (readingOf raw bareKeys).scriptOnly = false := by
      rintro ⟨before, path, after, hpaths, -⟩
      rw [← Bool.not_eq_true]
      intro honly
      rw [paths_readingOf, alternativesOf_scriptOnly honly] at hpaths
      exact absurd hpaths (by simp [pathsOf])
    simp only [hends h, h, outcome_ofExcept_noted, resolve_eq_error_iff, not_false_eq_true, and_false, false_or, true_and,
      reduceCtorEq, Except.ok.injEq, exists_eq_left', and_iff_right_iff_imp]
    exact fun hover => hscript hover.2

end Rule

end SiteReader
