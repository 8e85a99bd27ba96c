import SiteReader.Proofs.Document.Note
import SiteReader.Proofs.Document.Text
import SiteReader.Proofs.Excerpt.Chain

/-!
# Rows of lists

The fields of an item of a list are taken by the kind of the whole document, those of a document by its own kind.  Both come
to the same (`rows_of_fields`): what is taken from a page is an element, which as it is written is a page again
(`ofTree_element`), and an object or an array within a tree is a tree.
-/

namespace SiteReader

open Noted (IsSilent IsUniform Yields)

/-! ### Elements of pages -/

namespace Excerpt

open Markup (Spot)

theorem mem_of_itemAt? {α : Type} {place : Int} {items : List α} {a : α} (h : itemAt? place items = some a) : a ∈ items := by
  unfold itemAt? at h
  split at h
  · exact List.mem_of_getElem? h
  · split at h
    · exact List.mem_of_getElem? h
    · cases h

theorem eraseAt_subset {α : Type} (place : Int) (items : List α) : eraseAt place items ⊆ items := by
  intro a ha
  unfold eraseAt at ha
  split at ha
  · exact List.mem_of_mem_eraseIdx ha
  · split at ha
    · exact List.mem_of_mem_eraseIdx ha
    · exact ha

theorem Step.keep_subset {α : Type} (step : Step) (found : List α) : step.keep found ⊆ found := by
  intro a ha
  unfold keep at ha
  split at ha
  next => exact mem_of_itemAt? (Option.mem_toList.mp ha)
  next => exact eraseAt_subset _ _ ha
  next => exact ha

/-- A step finds elements. -/
theorem isElement_of_follow {step : Step} {spots found : List Spot} (h : follow step spots = .ok (some found)) :
    ∀ d ∈ found, d.isElement = true := by
  have hselect {spot d : Spot} {selectors : List Selector} (hd : d ∈ step.keep (Selector.select spot selectors)) :
      d.isElement = true :=
    (Spot.mem_descendants_iff.mp (List.mem_filter.mp (step.keep_subset _ hd)).1).2.2
  intro d hd
  unfold follow at h
  split at h
  · cases h
    cases hd
  · split at h
    · cases h
    · cases h
    · obtain rfl := Option.some.inj (Except.ok.inj h)
      dsimp only at hd
      split at hd
      · exact hselect hd
      · obtain ⟨spot, -, hd⟩ := List.mem_flatMap.mp ((distinctSpots_sublist _).subset hd)
        exact hselect hd

/-- A chain with a step finds elements. -/
theorem isElement_of_followAll {texts : List String} {spots found : List Spot}
    (h : followAll texts spots = .ok (some found)) (hs : texts = [] → ∀ d ∈ spots, d.isElement = true) :
    ∀ d ∈ found, d.isElement = true := by
  induction texts generalizing spots with
  | nil =>
    obtain rfl := Option.some.inj (Except.ok.inj h)
    exact hs rfl
  | cons text rest ih =>
    rw [followAll] at h
    cases hstep : Step.parse text with
    | error fault => rw [hstep] at h; cases h
    | ok step =>
      rw [hstep] at h
      simp only [bind, Except.bind] at h
      split at h
      · obtain rfl := Option.some.inj (Except.ok.inj h)
        exact List.forall_mem_nil _
      · cases hfollow : follow step spots with
        | error fault => rw [hfollow] at h; cases h
        | ok reached? =>
          rw [hfollow] at h
          cases reached? with
          | none => cases h
          | some reached => exact ih h fun _ => isElement_of_follow hfollow

/-- A text that starts with a tag. -/
def StartsTag (text : String) : Prop :=
  text.toList.head? = some '<'

theorem startsTag_of_isElement {spot : Spot} (h : spot.isElement = true) : StartsTag (nodeOf spot).outer := by
  rcases spot with nodes | ⟨parent, before, _ | ⟨name, attributes, children⟩, after⟩
  · cases h
  · cases h
  · rw [nodeOf, Markup.outer, StartsTag, String.toList_ofList, Markup.form]
    split <;> rfl

theorem yields_elements (page : List Markup) (option : String) (chain : Chain) :
    Yields (fun found => ∀ node ∈ found, StartsTag node.outer) (elements page option chain) := by
  unfold elements
  split
  next => exact .pure (List.forall_mem_nil _)
  next hsteps =>
    refine Yields.bind (.ofExcept (P := fun found? => ∀ found, found? = some found → ∀ spot ∈ found, spot.isElement = true)
      ?_) fun found? hfound => ?_
    · rintro _ hall found rfl
      exact isElement_of_followAll hall fun hnil => absurd (List.isEmpty_iff.mpr hnil) hsteps
    · cases found? with
      | none => exact Yields.bind (P := fun _ => True) (fun _ _ _ => trivial) fun _ _ => .pure (List.forall_mem_nil _)
      | some found =>
        refine .pure fun node hnode => ?_
        obtain ⟨spot, hspot, rfl⟩ := List.mem_map.mp hnode
        exact startsTag_of_isElement (hfound found rfl spot hspot)

theorem yields_firstElements (page : List Markup) (options : List String) :
    Yields (fun found => ∀ node ∈ found, StartsTag node.outer) (firstElements page options) := by
  induction options with
  | nil => exact .pure (List.forall_mem_nil _)
  | cons option rest ih =>
    refine (yields_elements page option _).bind fun found hfound => ?_
    cases found with
    | nil => exact ih
    | cons node others => exact .pure hfound

/-- What a rule takes from a page as its items starts with a tag. -/
theorem yields_selectList (html rule : String) : Yields (fun texts => ∀ text ∈ texts, StartsTag text) (selectList html rule) := by
  unfold selectList
  split
  next => exact .pure (List.forall_mem_nil _)
  next =>
    refine Yields.bind (P := fun _ => True) (fun _ _ _ => trivial) fun page _ =>
      (yields_firstElements page _).bind fun found hfound => .pure fun text htext => ?_
    obtain ⟨node, hnode, rfl⟩ := List.mem_map.mp htext
    exact hfound node hnode

end Excerpt

/-! ### Rows -/

namespace Document

/-- A text that starts with a tag is a page. -/
theorem ofTree_element {text : String} (h : Excerpt.StartsTag text) : ofTree (.text text) = .page text := by
  obtain ⟨rest, htext⟩ := List.head?_eq_some_iff.mp h
  rw [ofTree, ofText, htext]
  rfl

/-- The items of a page are elements. -/
theorem yields_items (evaluator? : Option Evaluator) (rule html : String) :
    Yields (fun found => ∀ item ∈ found, ∃ text, item = .text text ∧ Excerpt.StartsTag text)
      ((page html).items evaluator? rule) := by
  unfold items
  split
  next => exact .pure (List.forall_mem_nil _)
  next =>
    dsimp only
    refine (Excerpt.yields_selectList html rule).bind fun texts htexts => .pure fun item hitem => ?_
    obtain ⟨text, htext, rfl⟩ := List.mem_map.mp hitem
    exact ⟨text, rfl, htexts text htext⟩

/-- The fields that have a rule. -/
def ruled (fields : List (String × String)) : List (String × String) :=
  fields.filter fun asked => !asked.2.isEmpty

theorem row_eq (field : String → Noted String) (fields : List (String × String)) :
    row field fields = (ruled fields).mapM fun asked => do return (asked.1, ← field asked.2) := by
  induction fields with
  | nil => rfl
  | cons asked rest ih =>
    rw [row, ruled, List.filter_cons]
    cases asked.2.isEmpty with
    | true => exact ih
    | false =>
      simp only [Bool.not_false, ↓reduceIte, Bool.false_eq_true, List.mapM_cons, bind_assoc, pure_bind, ih]
      rfl

/-- A row has each field with a rule, in order, with the text that the field comes to. -/
def IsRowOf (field : String → Noted String) (fields row : List (String × String)) : Prop :=
  List.Forall₂ (fun asked entry => entry.1 = asked.1 ∧ (outcome (field asked.2) Notes.empty).1 = .ok entry.2)
    (ruled fields) row

theorem isUniform_row {field : String → Noted String} (h : ∀ rule, IsUniform (field rule))
    (fields : List (String × String)) : IsUniform (row field fields) := by
  induction fields with
  | nil => exact (IsSilent.pure _).uniform
  | cons asked rest ih =>
    rw [row]
    split
    next => exact ih
    next => exact (h asked.2).bind fun _ => ih.bind fun _ => (IsSilent.pure _).uniform

theorem outcome_row_eq_ok_iff {field : String → Noted String} (h : ∀ rule, IsUniform (field rule))
    {fields entries : List (String × String)} {notes : Notes} :
    (outcome (row field fields) notes).1 = .ok entries ↔ IsRowOf field fields entries := by
  have hentry (asked : String × String) : IsUniform (do return (asked.1, ← field asked.2)) :=
    (h asked.2).bind fun _ => (IsSilent.pure _).uniform
  have hiff (asked entry : String × String) :
      (outcome (do return (asked.1, ← field asked.2)) Notes.empty).1 = .ok entry ↔
        entry.1 = asked.1 ∧ (outcome (field asked.2) Notes.empty).1 = .ok entry.2 := by
    rw [outcome_bind_eq_ok_iff]
    constructor
    · rintro ⟨text, htext, ⟨⟩⟩
      exact ⟨rfl, htext⟩
    · rintro ⟨hkey, htext⟩
      exact ⟨entry.2, htext, by rw [← hkey]; rfl⟩
  rw [row_eq, IsUniform.mapM_eq_ok_iff hentry]
  exact ⟨.imp fun asked entry => (hiff asked entry).mp, .imp fun asked entry => (hiff asked entry).mpr⟩

theorem row_congr {field other : String → Noted String} (h : ∀ rule, rule ≠ "" → field rule = other rule)
    (fields : List (String × String)) : row field fields = row other fields := by
  induction fields with
  | nil => rfl
  | cons asked rest ih =>
    rw [row, row, ih]
    split
    next => rfl
    next hne => rw [h asked.2 fun heq => hne (String.isEmpty_iff.mpr heq)]

/-- The rows of a list have the fields of its items, each item taken as a document of its own. -/
theorem outcome_rows (evaluator? : Option Evaluator) (base listRule : String) (fields : List (String × String))
    (document : Document) (notes : Notes)
    (h : ∀ root, document = .tree root → ∀ found, (outcome (document.items evaluator? listRule) notes).1 = .ok found →
      ∀ item ∈ found, item.isContainer = true) :
    outcome (document.rows evaluator? base listRule fields) notes =
      outcome (document.items evaluator? listRule >>= fun found =>
        found.mapM fun item => row ((ofTree item).fieldText evaluator? base) fields) notes := by
  refine outcome_bind_congr fun found hfound => ?_
  cases document with
  | tree root =>
    refine Noted.mapM_congr fun item hitem => row_congr (fun rule hne => ?_) fields
    rw [ofTree_of_isContainer (h root rfl found hfound item hitem), fieldText_of_ne hne]
  | page html =>
    refine Noted.mapM_congr fun item hitem => row_congr (fun rule hne => ?_) fields
    obtain ⟨text, rfl, htext⟩ := yields_items evaluator? listRule html notes found hfound item hitem
    rw [ofTree_element htext, fieldText_of_ne hne]
    rfl

/-- The rows of a list have the fields of its items, each item taken as a document of its own, if the items of a tree are
objects and arrays: with the same warnings, the same evaluator calls and the same faults.  There is one row for each item, in
order, which has the fields with a rule and nothing else. -/
theorem rows_of_fields (evaluator? : Option Evaluator) (base listRule : String) (fields : List (String × String))
    (document : Document) (notes : Notes)
    (h : ∀ root, document = .tree root → ∀ found, (outcome (document.items evaluator? listRule) notes).1 = .ok found →
      ∀ item ∈ found, item.isContainer = true) :
    let field (item : Tree) (rule : String) : Noted String := (ofTree item).fieldText evaluator? base rule
    outcome (document.rows evaluator? base listRule fields) notes =
        outcome (document.items evaluator? listRule >>= fun found =>
          found.mapM fun item => (ruled fields).mapM fun asked => do return (asked.1, ← field item asked.2)) notes ∧
      ∀ rows, (outcome (document.rows evaluator? base listRule fields) notes).1 = .ok rows ↔
        ∃ found, (outcome (document.items evaluator? listRule) notes).1 = .ok found ∧
          List.Forall₂ (fun item => IsRowOf (field item) fields) found rows := by
  intro field
  have hrows := outcome_rows evaluator? base listRule fields document notes h
  have hfield (item : Tree) (rule : String) : IsUniform (field item rule) := isUniform_fieldText evaluator? base rule _
  refine ⟨?_, fun rows => ?_⟩
  · simpa only [row_eq] using hrows
  · rw [hrows, outcome_bind_eq_ok_iff]
    refine exists_congr fun found => and_congr_right fun _ => ?_
    rw [IsUniform.mapM_eq_ok_iff fun item => isUniform_row (hfield item) fields]
    have hiff (item : Tree) (entries : List (String × String)) :
        (outcome (row (field item) fields) Notes.empty).1 = .ok entries ↔ IsRowOf (field item) fields entries :=
      outcome_row_eq_ok_iff (hfield item)
    exact ⟨.imp fun item entries => (hiff item entries).mp, .imp fun item entries => (hiff item entries).mpr⟩

/-- Two objects in a list; the field without a rule is left out. -/
theorem rows_of_fields_objects :
    let item (name : String) : Tree := .object [("n", .text name)]
    let document : Document := .tree (.object [("list", .array [item "a", item "b"])])
    let fields := [("name", "$.n"), ("none", ""), ("key", "n")]
    let rows := [[("name", "a"), ("key", "a")], [("name", "b"), ("key", "b")]]
    let field (item : Tree) (rule : String) : Noted String := (ofTree item).fieldText none "" rule
    (∀ root, document = .tree root →
        ∀ found, (outcome (document.items none "$.list") Notes.empty).1 = .ok found →
          ∀ item ∈ found, item.isContainer = true) ∧
      outcome (document.rows none "" "$.list" fields) Notes.empty = (.ok rows, Notes.empty) ∧
      List.Forall₂ (fun item => IsRowOf (field item) fields) [item "a", item "b"] rows := by
  intro item document fields rows field
  have hitems : (outcome (document.items none "$.list") Notes.empty).1 = .ok [item "a", item "b"] := rfl
  have hcontainers : ∀ root, document = .tree root →
      ∀ found, (outcome (document.items none "$.list") Notes.empty).1 = .ok found →
        ∀ item ∈ found, item.isContainer = true := by
    intro root _ found hfound
    obtain rfl := Except.ok.inj (hitems.symm.trans hfound)
    simp [item, Tree.isContainer]
  have hrows : outcome (document.rows none "" "$.list" fields) Notes.empty = (.ok rows, Notes.empty) := rfl
  obtain ⟨found, hfound, hall⟩ :=
    ((rows_of_fields none "" "$.list" fields document Notes.empty hcontainers).2 rows).mp (congrArg Prod.fst hrows)
  obtain rfl := Except.ok.inj (hitems.symm.trans hfound)
  exact ⟨hcontainers, hrows, hall⟩

end Document

end SiteReader
