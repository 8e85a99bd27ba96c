import SiteReader.Proofs.Json.Keys
import SiteReader.Proofs.Path.Evaluation

/-!
# Addresses in a document

Fields and items lead to one node each, or to none, and what follows them in a path is evaluated there
(`follow_of_leads`, `follow_of_not_leads`).  Every node has an address that is made of them: as many as there are places in
the tree, in the same order (`exists_place_of_leads`, `precedes_of_lt`).  So the walk and the evaluation of paths, which know
nothing of each other, come to the same nodes (`addresses_lead`).
-/

namespace SiteReader

namespace Path

/-! ### Following an address -/

/-- Fields and items, which addresses are made of. -/
def Segment.isStep : Segment → Bool
  | field _ => true
  | item _ => true
  | _ => false

variable {root node : Tree} {address : List Segment}

theorem follow_of_leads (h : Leads address root node) (after : List Segment) :
    follow (address ++ after) root = follow after node := by
  induction h with
  | here => rfl
  | step hc _ ih => rw [List.cons_append, follow_of_child hc, ih]

theorem follow_of_isStep {segment : Segment} (hs : segment.isStep = true) (h : segment.child? root = none)
    (rest : List Segment) : follow (segment :: rest) root = .ok none := by
  cases segment with
  | field name =>
    cases root with
    | object fields =>
      have hvalue : Tree.field? name fields = none := h
      simp only [follow, hvalue]
    | _ => rfl
  | item position =>
    cases root with
    | array items =>
      have hvalue : items[position]? = none := h
      simp only [follow, hvalue]
    | _ => rfl
  | _ => cases hs

/-- An address that leads nowhere ends the evaluation, whatever follows it. -/
theorem follow_of_not_leads (hs : ∀ segment ∈ address, segment.isStep = true) (h : ∀ node, ¬ Leads address root node)
    (after : List Segment) : follow (address ++ after) root = .ok none := by
  induction address generalizing root with
  | nil => exact absurd (.here root) (h root)
  | cons segment rest ih =>
    obtain ⟨hsegment, hrest⟩ := List.forall_mem_cons.mp hs
    cases hc : segment.child? root with
    | none => exact follow_of_isStep hsegment hc (rest ++ after)
    | some child =>
      rw [List.cons_append, follow_of_child hc]
      exact ih hrest fun node hl => h node (.step hc hl)

/-! ### The steps of a node -/

/-- The fields or items that lead to the children of a node, in the order of the container. -/
def stepsOf : Tree → List Segment
  | .array items => (List.range items.length).map .item
  | .object fields => fields.map fun field => .field field.1
  | _ => []

theorem length_stepsOf (root : Tree) : (stepsOf root).length = root.children.length := by
  cases root <;> simp [stepsOf, Tree.children]

theorem nodup_stepsOf (h : root.Keyed) : (stepsOf root).Nodup := by
  cases root with
  | array items =>
    rw [stepsOf, List.Nodup, List.pairwise_map]
    exact List.nodup_range.imp fun hne heq => hne (Segment.item.inj heq)
  | object fields =>
    rw [stepsOf, List.Nodup, List.pairwise_map]
    exact (List.pairwise_map.mp (Tree.keyed_object.mp h).1).imp fun hne heq => hne (Segment.field.inj heq)
  | _ => exact .nil

variable {segment : Segment} {child : Tree}

/-- The steps of a node lead to its children, each to its own. -/
theorem child?_of_stepsOf (h : root.Keyed) {i : Nat} (hs : (stepsOf root)[i]? = some segment)
    (hc : root.children[i]? = some child) : segment.child? root = some child := by
  cases root with
  | array items =>
    simp only [stepsOf, List.getElem?_map, Option.map_eq_some_iff] at hs
    obtain ⟨position, hp, rfl⟩ := hs
    obtain ⟨-, rfl⟩ := List.getElem?_eq_some_iff.mp hp
    rwa [List.getElem_range]
  | object fields =>
    simp only [stepsOf, Tree.children, List.getElem?_map, Option.map_eq_some_iff] at hs hc
    obtain ⟨field, hf, rfl⟩ := hs
    obtain ⟨_, hf', rfl⟩ := hc
    obtain rfl := Option.some.inj (hf.symm.trans hf')
    exact Tree.field?_of_mem (Tree.keyed_object.mp h).1 (List.mem_of_getElem? hf)
  | _ => cases hc

theorem exists_step_of_child? (h : segment.child? root = some child) :
    ∃ i : Nat, (stepsOf root)[i]? = some segment ∧ root.children[i]? = some child := by
  cases segment with
  | field name =>
    cases root with
    | object fields =>
      obtain ⟨i, hi⟩ := List.mem_iff_getElem?.mp (Tree.mem_of_field? h)
      exact ⟨i, by simp [stepsOf, hi], by simp [Tree.children, hi]⟩
    | _ => cases h
  | item position =>
    cases root with
    | array items =>
      obtain ⟨hlt, -⟩ := List.getElem?_eq_some_iff.mp h
      exact ⟨position, by simp [stepsOf, hlt], h⟩
    | _ => cases h
  | _ => cases root <;> cases h

/-! ### The addresses of places -/

/-- The address of the node at a place. -/
def addressOf? : Tree → List Nat → Option (List Segment)
  | _, [] => some []
  | root, i :: place =>
    (stepsOf root)[i]?.bind fun segment =>
      root.children[i]?.bind fun child => (addressOf? child place).map (segment :: ·)

theorem addressOf?_cons_eq_some_iff {i : Nat} {place : List Nat} :
    addressOf? root (i :: place) = some address ↔ ∃ segment child rest, (stepsOf root)[i]? = some segment ∧
      root.children[i]? = some child ∧ addressOf? child place = some rest ∧ segment :: rest = address := by
  simp only [addressOf?, Option.bind_eq_some_iff, Option.map_eq_some_iff]
  constructor
  · rintro ⟨segment, hs, child, hc, rest, hr, heq⟩
    exact ⟨segment, child, rest, hs, hc, hr, heq⟩
  · rintro ⟨segment, child, rest, hs, hc, hr, heq⟩
    exact ⟨segment, hs, child, hc, rest, hr, heq⟩

/-- The address of a place leads to the node that is there. -/
theorem leads_of_addressOf? (h : root.Keyed) {place : List Nat} (ha : addressOf? root place = some address) :
    ∃ node, root.at? place = some node ∧ Leads address root node := by
  induction place generalizing root address with
  | nil =>
    obtain rfl := Option.some.inj ha
    exact ⟨root, rfl, .here root⟩
  | cons i place ih =>
    obtain ⟨segment, child, rest, hs, hc, hr, rfl⟩ := addressOf?_cons_eq_some_iff.mp ha
    obtain ⟨node, hn, hl⟩ := ih (h.of_mem_children (List.mem_of_getElem? hc)) hr
    exact ⟨node, by rw [Tree.at?, hc, Option.bind_some, hn], .step (child?_of_stepsOf h hs hc) hl⟩

/-- Every node that an address leads to has a place, and the address is the one of this place. -/
theorem exists_place_of_leads (h : Leads address root node) :
    ∃ place, addressOf? root place = some address ∧ root.at? place = some node := by
  induction h with
  | here => exact ⟨[], rfl, rfl⟩
  | step hc _ ih =>
    obtain ⟨place, ha, hn⟩ := ih
    obtain ⟨i, hs, hchild⟩ := exists_step_of_child? hc
    refine ⟨i :: place, addressOf?_cons_eq_some_iff.mpr ⟨_, _, _, hs, hchild, ha, rfl⟩, ?_⟩
    rw [Tree.at?, hchild, Option.bind_some, hn]

theorem isSome_addressOf? {place : List Nat} (h : root.at? place = some node) : (addressOf? root place).isSome := by
  induction place generalizing root with
  | nil => rfl
  | cons i place ih =>
    obtain ⟨child, hc, hn⟩ := Option.bind_eq_some_iff.mp h
    obtain ⟨rest, hr⟩ := Option.isSome_iff_exists.mp (ih hn)
    have hlt : i < (stepsOf root).length := by
      rw [length_stepsOf]
      exact (List.getElem?_eq_some_iff.mp hc).1
    rw [addressOf?_cons_eq_some_iff.mpr ⟨_, child, rest, List.getElem?_eq_getElem hlt, hc, hr, rfl⟩]
    rfl

/-! ### Pre-order -/

/-- An address comes before another one in pre-order if it leads to a node above the other's, or if the two part at a node and
it goes on to an earlier child there. -/
inductive Precedes : Tree → List Segment → List Segment → Prop
  | above {root : Tree} {segment : Segment} {rest : List Segment} : Precedes root [] (segment :: rest)
  | beside {root : Tree} {i j : Nat} {first second : Segment} {a b : List Segment} (hij : i < j)
      (hi : (stepsOf root)[i]? = some first) (hj : (stepsOf root)[j]? = some second) :
      Precedes root (first :: a) (second :: b)
  | inside {root child : Tree} {segment : Segment} {a b : List Segment} (hc : segment.child? root = some child)
      (h : Precedes child a b) : Precedes root (segment :: a) (segment :: b)

theorem keyed_of_child? (h : root.Keyed) (hc : segment.child? root = some child) : child.Keyed := by
  obtain ⟨i, -, hchild⟩ := exists_step_of_child? hc
  exact h.of_mem_children (List.mem_of_getElem? hchild)

theorem Precedes.ne {a b : List Segment} (h : root.Keyed) (hp : Precedes root a b) : a ≠ b := by
  induction hp with
  | above => exact List.cons_ne_nil _ _ |>.symm
  | @beside root i j first second a b hij hi hj =>
    intro heq
    obtain ⟨rfl, -⟩ := List.cons.inj heq
    have hlt : i < (stepsOf root).length := (List.getElem?_eq_some_iff.mp hi).1
    exact Nat.ne_of_lt hij ((List.getElem?_inj hlt (nodup_stepsOf h)).mp (hi.trans hj.symm))
  | inside hc _ ih => exact fun heq => ih (keyed_of_child? h hc) (List.cons.inj heq).2

/-- The addresses of places are in the order of the places. -/
theorem precedes_of_lt (h : root.Keyed) {place other : List Nat} (hlt : place < other) {a b : List Segment}
    (ha : addressOf? root place = some a) (hb : addressOf? root other = some b) : Precedes root a b := by
  induction place generalizing root other a b with
  | nil =>
    obtain rfl := Option.some.inj ha
    cases other with
    | nil => exact absurd hlt (List.not_lt_nil _)
    | cons j other =>
      obtain ⟨segment, child, rest, -, -, -, rfl⟩ := addressOf?_cons_eq_some_iff.mp hb
      exact .above
  | cons i place ih =>
    cases other with
    | nil => exact absurd hlt (List.not_lt_nil _)
    | cons j other =>
      obtain ⟨first, child, rest, hs, hc, hr, rfl⟩ := addressOf?_cons_eq_some_iff.mp ha
      obtain ⟨second, child', rest', hs', hc', hr', rfl⟩ := addressOf?_cons_eq_some_iff.mp hb
      rcases List.cons_lt_cons_iff.mp hlt with hij | ⟨rfl, hrest⟩
      · exact .beside hij hs hs'
      · obtain rfl := Option.some.inj (hs.symm.trans hs')
        obtain rfl := Option.some.inj (hc.symm.trans hc')
        exact .inside (child?_of_stepsOf h hs hc) (ih (h.of_mem_children (List.mem_of_getElem? hc)) hrest hr hr')

/-! ### The walk -/

/-- What the address of a place is evaluated to is the node that is there. -/
theorem map_evaluate_addressOf? (h : root.Keyed) (source : String) (place : List Nat) :
    ((addressOf? root place).map fun address => evaluate root ⟨source, address⟩) =
      (root.at? place).map fun node => .ok (some node) := by
  cases ha : addressOf? root place with
  | some address =>
    obtain ⟨node, hn, hl⟩ := leads_of_addressOf? h ha
    have hfollow := follow_of_leads hl []
    rw [List.append_nil] at hfollow
    rw [hn, Option.map_some, Option.map_some, evaluate, hfollow, follow]
  | none =>
    cases hn : root.at? place with
    | some node => cases ha ▸ isSome_addressOf? hn
    | none => rfl

/-- The walk lists what the addresses of a document are evaluated to, all of them, once each and in pre-order. -/
theorem exists_addresses (h : root.Keyed) (source : String) :
    ∃ addresses : List (List Segment), addresses.Pairwise (Precedes root) ∧ addresses.Nodup ∧
      (∀ address, address ∈ addresses ↔ ∃ node, Leads address root node) ∧
      (addresses.map fun address => evaluate root ⟨source, address⟩) = root.walk.map fun node => .ok (some node) := by
  obtain ⟨places, hplaces⟩ := Tree.exists_places root
  rw [← root.walk_eq_preorder] at hplaces
  have hordered : (places.filterMap (addressOf? root)).Pairwise (Precedes root) :=
    hplaces.increasing.filterMap (addressOf? root) fun _ _ hlt _ ha _ hb => precedes_of_lt h hlt ha hb
  refine ⟨_, hordered, hordered.imp fun hp => hp.ne h, fun address => ?_, ?_⟩
  · rw [List.mem_filterMap]
    constructor
    · rintro ⟨place, -, ha⟩
      obtain ⟨node, -, hl⟩ := leads_of_addressOf? h ha
      exact ⟨node, hl⟩
    · rintro ⟨node, hl⟩
      obtain ⟨place, ha, hn⟩ := exists_place_of_leads hl
      exact ⟨place, (hplaces.mem_iff place).mpr (hn ▸ rfl), ha⟩
  · calc (places.filterMap (addressOf? root)).map (fun address => evaluate root ⟨source, address⟩)
      _ = places.filterMap fun place => (addressOf? root place).map fun address => evaluate root ⟨source, address⟩ :=
        List.map_filterMap
      _ = places.filterMap fun place => (root.at? place).map fun node => .ok (some node) := by
        simp only [map_evaluate_addressOf? h]
      _ = (places.map root.at?).filterMap fun node? => node?.map fun node => .ok (some node) := by
        rw [List.filterMap_map]
        rfl
      _ = root.walk.map fun node => .ok (some node) := by
        rw [hplaces.map_eq, List.filterMap_map, ← List.filterMap_eq_map]
        rfl

/-- An address leads to one node or to none, and what follows it in a path is evaluated there; without a node there is no
value, whatever follows.  Where no object has a key twice, as in every document that was read, the walk lists the nodes of
the addresses that lead to one, once each and in pre-order. -/
theorem addresses_lead (root : Tree) (source : String) :
    (∀ address : List Segment, (∀ segment ∈ address, segment.isStep = true) →
      (∀ node, Leads address root node → evaluate root ⟨source, address⟩ = .ok (some node) ∧
        ∀ path : Path, evaluate root ⟨source, address ++ path.segments⟩ = path.evaluate node) ∧
      ((∀ node, ¬ Leads address root node) → evaluate root ⟨source, address⟩ = .ok none ∧
        ∀ path : Path, evaluate root ⟨source, address ++ path.segments⟩ = .ok none)) ∧
    (root.Keyed → ∃ addresses : List (List Segment), addresses.Pairwise (Precedes root) ∧ addresses.Nodup ∧
      (∀ address, address ∈ addresses ↔ ∃ node, Leads address root node) ∧
      (addresses.map fun address => evaluate root ⟨source, address⟩) = root.walk.map fun node => .ok (some node)) := by
  refine ⟨fun address hs => ⟨fun node hl => ?_, fun hno => ?_⟩, fun h => exists_addresses h source⟩
  · have hfollow := follow_of_leads hl
    refine ⟨?_, fun path => hfollow path.segments⟩
    have hend := hfollow []
    rwa [List.append_nil] at hend
  · have hfollow := follow_of_not_leads hs hno
    refine ⟨?_, fun path => hfollow path.segments⟩
    have hend := hfollow []
    rwa [List.append_nil] at hend

/-- An object inside an array inside an object, and an item that is not there. -/
theorem addresses_lead_nested :
    let inner : Tree := .object [("b", .integer 1)]
    let root : Tree := .object [("a", .array [.null, inner]), ("c", .text "x")]
    (root.Keyed ∧ Leads [.field "a", .item 1] root inner ∧ ∀ node, ¬ Leads [.field "a", .item 2] root node) ∧
      evaluate root ⟨"$.a[1]", [.field "a", .item 1]⟩ = .ok (some inner) ∧
      evaluate root ⟨"$.a[1]", [.field "a", .item 1] ++ [.search "b"]⟩ = evaluate inner ⟨"$..b", [.search "b"]⟩ ∧
      evaluate root ⟨"$.a[1]", [.field "a", .item 2] ++ [.search "b"]⟩ = .ok none ∧
      ∃ addresses : List (List Segment), addresses.Pairwise (Precedes root) ∧ addresses.Nodup ∧
        (∀ address, address ∈ addresses ↔ ∃ node, Leads address root node) ∧
        addresses.map (fun address => evaluate root ⟨"$.a[1]", address⟩) =
          [.ok (some root), .ok (some (.array [.null, inner])), .ok (some .null), .ok (some inner), .ok (some (.integer 1)),
            .ok (some (.text "x"))] := by
  intro inner root
  have hnull : Tree.null.Keyed := Tree.keyed_of_isContainer rfl
  have hinteger : (Tree.integer 1).Keyed := Tree.keyed_of_isContainer rfl
  have htext : (Tree.text "x").Keyed := Tree.keyed_of_isContainer rfl
  have hinner : inner.Keyed := Tree.keyed_object.mpr ⟨by decide, by simp [hinteger]⟩
  have hkeyed : root.Keyed := Tree.keyed_object.mpr ⟨by decide, by simp [hinner, hnull, htext, Tree.keyed_array]⟩
  have hleads : Leads [.field "a", .item 1] root inner := .step rfl (.step rfl (.here inner))
  have hmisses : ∀ node, ¬ Leads [.field "a", .item 2] root node := by
    rintro node (_ | ⟨ha, _ | ⟨hi, -⟩⟩)
    obtain rfl := Option.some.inj ha
    cases hi
  obtain ⟨hlead, hwalk⟩ := addresses_lead root "$.a[1]"
  obtain ⟨hvalue, hafter⟩ := (hlead [.field "a", .item 1] (by decide)).1 inner hleads
  obtain ⟨-, hnone⟩ := (hlead [.field "a", .item 2] (by decide)).2 hmisses
  let search : Path := ⟨"$..b", [.search "b"]⟩
  refine ⟨⟨hkeyed, hleads, hmisses⟩, hvalue, hafter search, hnone search, ?_⟩
  have hlist : root.walk = [root, .array [.null, inner], .null, inner, .integer 1, .text "x"] := root.walk_eq_preorder
  rw [hlist] at hwalk
  exact hwalk hkeyed

end Path

end SiteReader
