import SiteReader.Tree.Basic

/-!
# The order in which nodes are listed

The walk with a stack lists the same nodes as the recursive listing (`walk_eq_preorder`).  It comes to every place of the
tree once, and to the places in lexicographic order (`exists_places`), which is what listing a node before its
children, and children in the order of their container, amounts to.
-/

namespace SiteReader.Tree

/-! ### The walk and the recursive listing -/

theorem preorderItems_eq (items : List Tree) : preorderItems items = items.flatMap preorder := by
  induction items with
  | nil => rfl
  | cons t rest ih => rw [preorderItems, ih, List.flatMap_cons]

theorem preorderFields_eq (fields : List (String × Tree)) :
    preorderFields fields = (fields.map (·.2)).flatMap preorder := by
  induction fields with
  | nil => rfl
  | cons field rest ih =>
    obtain ⟨key, t⟩ := field
    rw [preorderFields, ih, List.map_cons, List.flatMap_cons]

theorem preorder_eq (t : Tree) : t.preorder = t :: t.children.flatMap preorder := by
  cases t <;> simp [preorder, children, preorderItems_eq, preorderFields_eq]

theorem walkStack_eq_flatMap (stack : List Tree) : walkStack stack = stack.flatMap preorder := by
  fun_induction walkStack stack with
  | case1 => rfl
  | case2 node rest ih => rw [ih, List.flatMap_append, List.flatMap_cons, preorder_eq, List.cons_append]

theorem walk_eq_preorder (root : Tree) : root.walk = root.preorder := by
  rw [walk, walkStack_eq_flatMap, List.flatMap_cons, List.flatMap_nil, List.append_nil]

/-! ### Places -/

/-- The node at a place, which tells the child to go to at each node on the way. -/
def at? : Tree → List Nat → Option Tree
  | node, [] => some node
  | node, i :: place => node.children[i]?.bind fun child => child.at? place

/-- Among trees that are counted from a number on, the node at a place that starts with the number of its tree. -/
def atFrom? (first : Nat) (trees : List Tree) : List Nat → Option Tree
  | [] => none
  | i :: place => if i < first then none else trees[i - first]?.bind fun t => t.at? place

/-- The places are those where there is a node, each once and in lexicographic order, and the nodes are the ones found
there. -/
structure Enumerates (node? : List Nat → Option Tree) (places : List (List Nat)) (nodes : List Tree) : Prop where
  increasing : places.Pairwise (· < ·)
  mem_iff : ∀ place, place ∈ places ↔ (node? place).isSome
  map_eq : places.map node? = nodes.map some

private theorem atFrom?_self (first : Nat) (t : Tree) (trees : List Tree) (place : List Nat) :
    atFrom? first (t :: trees) (first :: place) = t.at? place := by
  simp [atFrom?]

private theorem atFrom?_of_ne {first i : Nat} (h : i ≠ first) (t : Tree) (trees : List Tree) (place : List Nat) :
    atFrom? first (t :: trees) (i :: place) = atFrom? (first + 1) trees (i :: place) := by
  simp only [atFrom?]
  by_cases hlt : i < first
  · rw [if_pos hlt, if_pos (by omega)]
  · rw [if_neg hlt, if_neg (by omega), show i - first = (i - (first + 1)) + 1 by omega, List.getElem?_cons_succ]

private theorem le_of_isSome_atFrom? {first : Nat} {trees : List Tree} {place : List Nat}
    (h : (atFrom? first trees place).isSome) : ∃ i rest, place = i :: rest ∧ first ≤ i := by
  cases place with
  | nil => simp [atFrom?] at h
  | cons i rest =>
    refine ⟨i, rest, rfl, Nat.le_of_not_lt fun hi => ?_⟩
    simp [atFrom?, hi] at h

/-- The places below a tree, and then those of the trees that follow. -/
private theorem Enumerates.cons {first : Nat} {t : Tree} {trees nodes : List Tree} {inner others : List (List Nat)}
    (h : Enumerates t.at? inner t.preorder) (hs : Enumerates (atFrom? (first + 1) trees) others nodes) :
    Enumerates (atFrom? first (t :: trees)) (inner.map (first :: ·) ++ others) (t.preorder ++ nodes) := by
  have hgreater {place : List Nat} (hp : place ∈ others) : ∃ i rest, place = i :: rest ∧ first < i :=
    le_of_isSome_atFrom? ((hs.mem_iff place).mp hp)
  refine ⟨?_, fun place => ?_, ?_⟩
  · rw [List.pairwise_append, List.pairwise_map]
    refine ⟨h.increasing.imp fun h => List.cons_lt_cons_iff.mpr (.inr ⟨rfl, h⟩), hs.increasing, ?_⟩
    intro place hp other ho
    obtain ⟨place, -, rfl⟩ := List.mem_map.mp hp
    obtain ⟨i, rest, rfl, hi⟩ := hgreater ho
    exact List.cons_lt_cons_iff.mpr (.inl hi)
  · rw [List.mem_append, List.mem_map]
    -- a place with the number of this tree is none of the others, which start with greater numbers
    have hothers (rest : List Nat) : first :: rest ∉ others := by
      intro ho
      obtain ⟨i, _, heq, hi⟩ := hgreater ho
      obtain ⟨rfl, -⟩ := List.cons.inj heq
      exact Nat.lt_irrefl _ hi
    have hnil : [] ∉ others := by
      intro ho
      obtain ⟨_, _, heq, -⟩ := hgreater ho
      cases heq
    cases place with
    | nil => simp [hnil, atFrom?]
    | cons i rest =>
      by_cases hi : i = first
      · subst hi
        simp [hothers, atFrom?_self, h.mem_iff]
      · rw [atFrom?_of_ne hi, ← hs.mem_iff]
        simp [Ne.symm hi]
  · rw [List.map_append, List.map_map, List.map_append, ← h.map_eq, ← hs.map_eq]
    congr 1
    · exact List.map_congr_left fun place _ => atFrom?_self first t trees place
    · refine List.map_congr_left fun place hp => ?_
      obtain ⟨i, rest, rfl, hi⟩ := hgreater hp
      exact atFrom?_of_ne (by omega) t trees rest

private theorem exists_places_items {trees : List Tree}
    (h : ∀ t ∈ trees, ∃ places, Enumerates t.at? places t.preorder) (first : Nat) :
    ∃ places, Enumerates (atFrom? first trees) places (trees.flatMap preorder) := by
  induction trees generalizing first with
  | nil =>
    refine ⟨[], .nil, fun place => ?_, rfl⟩
    cases place <;> simp [atFrom?]
  | cons t trees ih =>
    obtain ⟨inner, hinner⟩ := h t List.mem_cons_self
    obtain ⟨others, hothers⟩ := ih (fun t' ht => h t' (List.mem_cons_of_mem _ ht)) (first + 1)
    exact ⟨_, hinner.cons hothers⟩

/-- The place of a node comes before the places of its children. -/
private theorem Enumerates.node {t : Tree} {places : List (List Nat)} {nodes : List Tree}
    (h : Enumerates (atFrom? 0 t.children) places nodes) : Enumerates t.at? ([] :: places) (t :: nodes) := by
  have hnil : [] ∉ places := fun hm => by simp [h.mem_iff, atFrom?] at hm
  have hat (i : Nat) (rest : List Nat) : t.at? (i :: rest) = atFrom? 0 t.children (i :: rest) := by
    simp [at?, atFrom?]
  refine ⟨List.pairwise_cons.mpr ⟨fun place hp => ?_, h.increasing⟩, fun place => ?_, ?_⟩
  · cases place with
    | nil => exact absurd hp hnil
    | cons i rest => exact List.nil_lt_cons i rest
  · cases place with
    | nil => simp [at?]
    | cons i rest => simp [hat, h.mem_iff]
  · rw [List.map_cons, List.map_cons, ← h.map_eq]
    congr 1
    refine List.map_congr_left fun place hp => ?_
    cases place with
    | nil => exact absurd hp hnil
    | cons i rest => exact hat i rest

private theorem size_lt_of_mem_children {t child : Tree} (h : child ∈ t.children) : child.size < t.size := by
  rw [size_eq t]
  generalize t.children = trees at h
  induction trees with
  | nil => cases h
  | cons first rest ih =>
    rw [sizeItems]
    rcases List.mem_cons.mp h with rfl | h
    · omega
    · have := ih h
      omega

theorem exists_places (root : Tree) : ∃ places, Enumerates root.at? places root.preorder := by
  -- on the size of the tree, for its children are smaller
  induction hn : root.size using Nat.strongRecOn generalizing root with
  | ind n ih =>
    subst hn
    obtain ⟨places, h⟩ := exists_places_items
      (fun child hc => ih child.size (size_lt_of_mem_children hc) child rfl) 0
    rw [preorder_eq]
    exact ⟨_, h.node⟩

end SiteReader.Tree
