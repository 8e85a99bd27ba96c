import SiteReader.Path.Evaluate
import SiteReader.Proofs.Tree.Walk

/-!
# What the searches of a path find

A search lists the objects that hold a property in the order of the recursive listing, those among them whose value
matches a literal, or one entry for each of them (`search_finds_holders`).  The two ways of collecting agree on which
objects count, for both are told by `Tree.property?`.
-/

namespace SiteReader

namespace Tree

/-- What a node holds under a name, if it is an object that has a field of that name. -/
def property? (name : String) : Tree → Option Tree
  | object fields => field? name fields
  | _ => none

/-- The objects of a tree that hold a property, in the order of the recursive listing. -/
def holders (name : String) (root : Tree) : List Tree :=
  root.preorder.filter fun node => (node.property? name).isSome

/-- Whether a node holds a property whose value loosely equals a literal. -/
def holdsEqual (name literal : String) (node : Tree) : Bool :=
  (node.property? name).any fun value => value.looselyEquals literal matches .ok true

/-- Whether a node holds a property whose value is beyond the range of numbers that it has to be compared in. -/
def overflows (name literal : String) (node : Tree) : Bool :=
  (node.property? name).any fun value => value.looselyEquals literal matches .error .overflow

/-! ### Collecting nodes -/

theorem holding_cons (name : String) (literal? : Option String) (node : Tree) (rest : List Tree) :
    holding name literal? (node :: rest) = match node.property? name with
      | some value => do
        let matching ← match literal? with
          | some literal => value.looselyEquals literal
          | none => .ok true
        let others ← holding name literal? rest
        return if matching then node :: others else others
      | none => holding name literal? rest := by
  cases node with
  | object fields =>
    cases literal? <;> cases h : field? name fields <;> simp only [holding, property?, h]
  | _ => rfl

theorem holding_none (name : String) (nodes : List Tree) :
    holding name none nodes = .ok (nodes.filter fun node => (node.property? name).isSome) := by
  induction nodes with
  | nil => rfl
  | cons node rest ih =>
    rw [holding_cons, ih]
    cases h : node.property? name with
    | none => rw [List.filter_cons_of_neg (by simp [h])]
    | some value =>
      rw [List.filter_cons_of_pos (by simp [h])]
      rfl

theorem looselyEquals_cases (value : Tree) (literal : String) :
    value.looselyEquals literal = .error .overflow ∨ ∃ equal, value.looselyEquals literal = .ok equal := by
  cases value with
  | integer n =>
    simp only [looselyEquals]
    cases Numeral.decimal? literal.toList with
    | none => exact .inr ⟨_, rfl⟩
    | some x =>
      cases Double.ofInt? n with
      | none => exact .inl rfl
      | some y => exact .inr ⟨_, rfl⟩
  | double y =>
    simp only [looselyEquals]
    cases Numeral.decimal? literal.toList <;> exact .inr ⟨_, rfl⟩
  | boolean b =>
    simp only [looselyEquals]
    cases Numeral.decimal? literal.toList <;> exact .inr ⟨_, rfl⟩
  | _ => exact .inr ⟨_, rfl⟩

theorem holding_some {name literal : String} {nodes : List Tree}
    (h : ∀ node ∈ nodes, node.overflows name literal = false) :
    holding name (some literal) nodes = .ok (nodes.filter (·.holdsEqual name literal)) := by
  induction nodes with
  | nil => rfl
  | cons node rest ih =>
    rw [holding_cons, ih fun node' hn => h node' (List.mem_cons_of_mem _ hn)]
    cases hp : node.property? name with
    | none => rw [List.filter_cons_of_neg (by simp [holdsEqual, hp])]
    | some value =>
      rcases looselyEquals_cases value literal with he | ⟨equal, he⟩
      · simpa [overflows, hp, he] using h node List.mem_cons_self
      · cases equal with
        | false =>
          rw [List.filter_cons_of_neg (by simp [holdsEqual, hp, he])]
          simp only [he]
          rfl
        | true =>
          rw [List.filter_cons_of_pos (by simp [holdsEqual, hp, he])]
          simp only [he]
          rfl

/-- What the search for a property puts in the place of a node that holds it. -/
def entry (name : String) (node : Tree) : Tree :=
  ((node.property? name).map (found node)).getD node

private theorem collect_cons (name : String) (node : Tree) (rest : List Tree) :
    collect name (node :: rest) = ((node.property? name).map (found node)).toList ++ collect name rest := by
  cases node with
  | object fields =>
    simp only [collect, List.filterMap_cons, property?]
    cases field? name fields <;> rfl
  | _ => rfl

theorem collect_eq (name : String) (nodes : List Tree) :
    collect name nodes = (nodes.filter fun node => (node.property? name).isSome).map (entry name) := by
  induction nodes with
  | nil => rfl
  | cons node rest ih =>
    rw [collect_cons, ih]
    cases h : node.property? name with
    | none =>
      rw [List.filter_cons_of_neg (by simp [h])]
      rfl
    | some value =>
      rw [List.filter_cons_of_pos (by simp [h]), List.map_cons, entry, h]
      rfl

theorem entry_eq {name : String} {node value : Tree} (h : node.property? name = some value) :
    entry name node = if value.kind ∈ [.string, .number, .boolean] then value else node := by
  rw [entry, h, Option.map_some, Option.getD_some]
  cases value <;> rfl

theorem filter_holders (name literal : String) (root : Tree) :
    (root.holders name).filter (·.holdsEqual name literal) = root.preorder.filter (·.holdsEqual name literal) := by
  rw [holders, List.filter_filter]
  refine List.filter_congr fun node _ => ?_
  cases h : node.property? name <;> simp [holdsEqual, h]

theorem overflows_eq_false {name literal : String} {root : Tree}
    (h : ∀ node ∈ root.holders name, node.overflows name literal = false) :
    ∀ node ∈ root.preorder, node.overflows name literal = false := by
  intro node hn
  cases hp : node.property? name with
  | none => rw [overflows, hp, Option.any_none]
  | some value => exact h node (List.mem_filter.mpr ⟨hn, by rw [hp]; rfl⟩)

end Tree

open SiteReader.Tree (Enumerates)

namespace Path

/-- The walk is the pre-order listing, and the searches find in it just the objects that hold the property. -/
theorem search_finds_holders (root : Tree) :
    (root.walk = root.preorder ∧ root.preorder = root :: root.children.flatMap Tree.preorder ∧
      ∃ places, Enumerates root.at? places root.walk) ∧
    ∀ (name source : String) (rest : List Segment),
      evaluate root ⟨source, .filter name none :: rest⟩ = .ok (some (.array (root.holders name))) ∧
      (∀ literal, (∀ node ∈ root.holders name, node.overflows name literal = false) →
        evaluate root ⟨source, .filter name (some literal) :: rest⟩ =
          .ok (some (.array ((root.holders name).filter (·.holdsEqual name literal))))) ∧
      ∃ entries, evaluate root ⟨source, .search name :: rest⟩ = .ok (some (.array entries)) ∧
        entries.length = (root.holders name).length ∧
        ∀ (i : Nat) (node value : Tree), (root.holders name)[i]? = some node → node.property? name = some value →
          entries[i]? = some (if value.kind ∈ [.string, .number, .boolean] then value else node) := by
  obtain ⟨places, hplaces⟩ := Tree.exists_places root
  refine ⟨⟨root.walk_eq_preorder, root.preorder_eq, places, root.walk_eq_preorder ▸ hplaces⟩, ?_⟩
  intro name source rest
  refine ⟨?_, fun literal hc => ?_, (root.holders name).map (Tree.entry name), ?_, ?_, ?_⟩
  · rw [evaluate, follow, root.walk_eq_preorder, Tree.holding_none]
    rfl
  · rw [evaluate, follow, root.walk_eq_preorder, Tree.holding_some (Tree.overflows_eq_false hc), Tree.filter_holders]
    rfl
  · rw [evaluate, follow, root.walk_eq_preorder, Tree.collect_eq]
    rfl
  · exact List.length_map ..
  · intro i node value hi hp
    rw [List.getElem?_map, hi, Option.map_some, Tree.entry_eq hp]

theorem search_finds_holders_nested :
    (∀ node ∈ Tree.holders "a" (.object [("a", .null), ("b", .array [.object [("a", .integer 42)],
      .object [("a", .text "42")]])]), node.overflows "a" "42.0" = false) ∧
    evaluate (.object [("a", .null), ("b", .array [.object [("a", .integer 42)], .object [("a", .text "42")]])])
        ⟨"$..[?(@.a=='42.0')]", [.filter "a" (some "42.0")]⟩ =
      .ok (some (.array ((Tree.holders "a" (.object [("a", .null), ("b", .array [.object [("a", .integer 42)],
        .object [("a", .text "42")]])])).filter (·.holdsEqual "a" "42.0")))) := by
  have hrange : ∀ node ∈ Tree.holders "a" (.object [("a", .null), ("b", .array [.object [("a", .integer 42)],
      .object [("a", .text "42")]])]), node.overflows "a" "42.0" = false := by decide +kernel
  exact ⟨hrange, ((search_finds_holders _).2 "a" _ []).2.1 "42.0" hrange⟩

end Path

end SiteReader
