import SiteReader.Markup.Spot

/-!
# Elements in document order

The elements below a spot are those that stand anywhere within it (`mem_descendants_iff`).  They are listed in document
order, which is the lexicographic order of their places, and each of them once (`pairwise_descendants`).
-/

namespace SiteReader.Markup.Spot

/-! ### Places -/

/-- The way to a spot from the page: how many nodes to pass by at each level. -/
def place (spot : Spot) : List Nat :=
  spot.address.reverse

/-- Document order: a spot comes before the spots below it, and those below it before all that comes after it. -/
def Precedes (a b : Spot) : Prop :=
  a.place < b.place

instance (a b : Spot) : Decidable (Precedes a b) :=
  inferInstanceAs (Decidable (_ < _))

@[simp] theorem place_child (parent : Spot) (before : List Markup) (node : Markup) (after : List Markup) :
    (child parent before node after).place = parent.place ++ [before.length] := by
  rw [place, address, List.reverse_cons, place]

theorem not_precedes_self (a : Spot) : ¬ Precedes a a :=
  List.lt_irrefl _

mutual

private theorem place_of_mem_elementsOf {d parent : Spot} {before after : List Markup} :
    ∀ {node : Markup}, d ∈ elementsOf parent before after node → ∃ rest, d.place = parent.place ++ before.length :: rest
  | .text _ _, h => by cases h
  | .element name attributes children, h => by
    rw [elementsOf] at h
    rcases List.mem_cons.mp h with rfl | h
    · exact ⟨[], place_child ..⟩
    · obtain ⟨k, rest, -, hplace⟩ := place_of_mem_elementsAmong h
      exact ⟨k :: rest, by rw [hplace, place_child, List.append_assoc, List.singleton_append]⟩

/-- The places of the elements among some nodes go on with the number of a node. -/
private theorem place_of_mem_elementsAmong {d parent : Spot} {before : List Markup} :
    ∀ {nodes : List Markup}, d ∈ elementsAmong parent before nodes →
      ∃ k rest, before.length ≤ k ∧ d.place = parent.place ++ k :: rest
  | [], h => by cases h
  | node :: after, h => by
    rw [elementsAmong] at h
    rcases List.mem_append.mp h with h | h
    · obtain ⟨rest, hplace⟩ := place_of_mem_elementsOf h
      exact ⟨_, rest, Nat.le_refl _, hplace⟩
    · obtain ⟨k, rest, hk, hplace⟩ := place_of_mem_elementsAmong h
      exact ⟨k, rest, Nat.le_of_succ_le hk, hplace⟩

end

mutual

private theorem pairwise_elementsOf (parent : Spot) (before after : List Markup) :
    ∀ node, (elementsOf parent before after node).Pairwise Precedes
  | .text _ _ => .nil
  | .element name attributes children => by
    rw [elementsOf]
    refine List.pairwise_cons.mpr ⟨fun d hd => ?_, pairwise_elementsAmong _ [] children⟩
    obtain ⟨k, rest, -, hplace⟩ := place_of_mem_elementsAmong hd
    have hlt : (child parent before (element name attributes children) after).place ++ [] < _ :=
      List.append_left_lt (List.nil_lt_cons k rest)
    rwa [List.append_nil, ← hplace] at hlt

private theorem pairwise_elementsAmong (parent : Spot) (before : List Markup) :
    ∀ nodes, (elementsAmong parent before nodes).Pairwise Precedes
  | [] => .nil
  | node :: after => by
    rw [elementsAmong]
    refine List.pairwise_append.mpr
      ⟨pairwise_elementsOf parent before after node, pairwise_elementsAmong parent (node :: before) after, ?_⟩
    intro a ha b hb
    obtain ⟨rest, hplace⟩ := place_of_mem_elementsOf ha
    obtain ⟨k, others, hk, hlater⟩ := place_of_mem_elementsAmong hb
    unfold Precedes
    rw [hplace, hlater]
    exact List.append_left_lt (List.cons_lt_cons_iff.mpr (.inl hk))

end

/-- The elements below a spot are listed in document order, each once. -/
theorem pairwise_descendants (spot : Spot) : spot.descendants.Pairwise Precedes :=
  pairwise_elementsAmong spot [] spot.nodes

/-! ### Spots within others -/

/-- A spot is the given one, or it stands anywhere below it. -/
inductive Within (top : Spot) : Spot → Prop
  | refl : Within top top
  | child {parent : Spot} {before : List Markup} {node : Markup} {after : List Markup} (hp : Within top parent)
      (hn : parent.nodes = before.reverse ++ node :: after) : Within top (child parent before node after)

variable {top a b d : Spot}

theorem Within.trans (h : Within top a) (hd : Within a d) : Within top d := by
  induction hd with
  | refl => exact h
  | child _ hn ih => exact .child ih hn

theorem Within.suffix (h : Within top d) : top.address <:+ d.address := by
  induction h with
  | refl => exact List.suffix_refl _
  | child _ _ ih => exact ih.trans (List.suffix_cons _ _)

/-- Within a spot, no two spots have the same place. -/
theorem Within.eq_of_address (ha : Within top a) (hb : Within top b) (h : a.address = b.address) : a = b := by
  -- a spot below the given one has a longer address
  have hlonger {parent : Spot} {before : List Markup} {node : Markup} {after : List Markup} (hp : Within top parent) :
      (Spot.child parent before node after).address ≠ top.address := by
    intro heq
    have hle := hp.suffix.length_le
    have hlength := congrArg List.length heq
    rw [address, List.length_cons] at hlength
    omega
  induction ha generalizing b with
  | refl =>
    cases hb with
    | refl => rfl
    | child hp _ => exact absurd h.symm (hlonger hp)
  | child hp hn ih =>
    cases hb with
    | refl => exact absurd h (hlonger hp)
    | child hp' hn' =>
      obtain ⟨hlength, haddress⟩ := List.cons.inj h
      obtain rfl := ih hp' haddress
      obtain ⟨hbefore, hafter⟩ := List.append_inj (hn.symm.trans hn') (by simpa using hlength)
      obtain ⟨rfl, rfl⟩ := List.cons.inj hafter
      rw [List.reverse_inj.mp hbefore]

/-- Places tell which spots stand within which. -/
theorem Within.of_suffix (ha : Within top a) (hb : Within top b) (h : a.address <:+ b.address) : Within a b := by
  induction hb with
  | refl =>
    rw [ha.eq_of_address .refl (h.eq_of_length_le ha.suffix.length_le)]
    exact .refl
  | child hp hn ih =>
    rcases List.suffix_cons_iff.mp h with heq | h
    · rw [ha.eq_of_address (.child hp hn) heq]
      exact .refl
    · exact .child (ih h) hn

private theorem lt_append_of_lt {x y : List Nat} (h : x < y) (hno : ¬ x <+: y) (v w : List Nat) : x ++ v < y ++ w := by
  induction x generalizing y with
  | nil => exact absurd List.nil_prefix hno
  | cons i x ih =>
    cases y with
    | nil => exact absurd h (List.not_lt_nil _)
    | cons j y =>
      rw [List.cons_append, List.cons_append, List.cons_lt_cons_iff]
      rcases List.cons_lt_cons_iff.mp h with hij | ⟨rfl, hxy⟩
      · exact .inl hij
      · exact .inr ⟨rfl, ih hxy fun hp => hno (List.cons_prefix_cons.mpr ⟨rfl, hp⟩)⟩

/-- What is within a spot precedes what is within a later one that is not within the first. -/
theorem Precedes.within {c : Spot} (h : Precedes a b) (ha : Within top a) (hb : Within top b) (hno : ¬ Within a b)
    (hc : Within a c) (hd : Within b d) : Precedes c d := by
  have hprefix : ¬ a.place <+: b.place := fun hp => hno (ha.of_suffix hb (List.reverse_prefix.mp hp))
  obtain ⟨v, hv⟩ := List.reverse_prefix.mpr hc.suffix
  obtain ⟨w, hw⟩ := List.reverse_prefix.mpr hd.suffix
  unfold Precedes place
  rw [← hv, ← hw]
  exact lt_append_of_lt h hprefix v w

/-! ### Elements below a spot -/

def isElement : Spot → Bool
  | child _ _ (element _ _ _) _ => true
  | _ => false

/-- An element stands within a spot and is not the spot itself. -/
def IsBelow (d spot : Spot) : Prop :=
  Within spot d ∧ d ≠ spot ∧ d.isElement = true

mutual

private theorem within_of_mem_elementsOf {parent : Spot} {before after : List Markup} :
    ∀ {node : Markup}, parent.nodes = before.reverse ++ node :: after → d ∈ elementsOf parent before after node →
      Within parent d ∧ d.isElement = true
  | .text _ _, _, h => by cases h
  | .element name attributes children, hn, h => by
    have hchild := Within.child .refl hn
    rw [elementsOf] at h
    rcases List.mem_cons.mp h with rfl | h
    · exact ⟨hchild, rfl⟩
    · obtain ⟨hd, helement⟩ := within_of_mem_elementsAmong (by rfl) h
      exact ⟨hchild.trans hd, helement⟩

private theorem within_of_mem_elementsAmong {parent : Spot} {before : List Markup} :
    ∀ {nodes : List Markup}, parent.nodes = before.reverse ++ nodes → d ∈ elementsAmong parent before nodes →
      Within parent d ∧ d.isElement = true
  | [], _, h => by cases h
  | node :: after, hn, h => by
    rw [elementsAmong] at h
    rcases List.mem_append.mp h with h | h
    · exact within_of_mem_elementsOf hn h
    · exact within_of_mem_elementsAmong (by rw [hn, List.reverse_cons, List.append_assoc, List.singleton_append]) h

end

mutual

private theorem descendants_subset_elementsOf {parent : Spot} {before after : List Markup} :
    ∀ {node : Markup}, a ∈ elementsOf parent before after node → a.descendants ⊆ elementsOf parent before after node
  | .text _ _, h => by cases h
  | .element name attributes children, h => by
    rw [elementsOf] at h ⊢
    rcases List.mem_cons.mp h with rfl | h
    · exact List.subset_cons_self _ _
    · exact List.Subset.trans (descendants_subset_elementsAmong h) (List.subset_cons_self _ _)

private theorem descendants_subset_elementsAmong {parent : Spot} {before : List Markup} :
    ∀ {nodes : List Markup}, a ∈ elementsAmong parent before nodes → a.descendants ⊆ elementsAmong parent before nodes
  | [], h => by cases h
  | node :: after, h => by
    rw [elementsAmong] at h ⊢
    rcases List.mem_append.mp h with h | h
    · exact List.Subset.trans (descendants_subset_elementsOf h) (List.subset_append_left _ _)
    · exact List.Subset.trans (descendants_subset_elementsAmong h) (List.subset_append_right _ _)

end

/-- What is below an element below a spot is below the spot. -/
theorem descendants_subset (h : a ∈ top.descendants) : a.descendants ⊆ top.descendants :=
  descendants_subset_elementsAmong h

private theorem mem_elementsAmong_append {parent : Spot} {node : Markup} {after : List Markup} (front before : List Markup)
    (h : d ∈ elementsOf parent (front.reverse ++ before) after node) :
    d ∈ elementsAmong parent before (front ++ node :: after) := by
  induction front generalizing before with
  | nil => exact List.mem_append_left _ h
  | cons first front ih =>
    refine List.mem_append_right _ (ih (first :: before) ?_)
    rwa [List.reverse_cons, List.append_assoc, List.singleton_append] at h

theorem mem_descendants_of_child {before : List Markup} {node : Markup} {after : List Markup}
    (hn : top.nodes = before.reverse ++ node :: after) (h : (child top before node after).isElement = true) :
    child top before node after ∈ top.descendants := by
  rw [descendants, hn]
  refine mem_elementsAmong_append before.reverse [] ?_
  rw [List.reverse_reverse, List.append_nil]
  cases node with
  | text => cases h
  | element name attributes children => exact List.mem_cons_self

/-- The elements below a spot are those that are within it, the spot itself left out. -/
theorem mem_descendants_iff : d ∈ top.descendants ↔ IsBelow d top := by
  constructor
  · intro h
    obtain ⟨hd, helement⟩ := within_of_mem_elementsAmong rfl h
    refine ⟨hd, ?_, helement⟩
    rintro rfl
    obtain ⟨k, rest, -, hplace⟩ := place_of_mem_elementsAmong h
    exact absurd (List.append_right_eq_self.mp hplace.symm) (List.cons_ne_nil _ _)
  · rintro ⟨hd, hne, helement⟩
    induction hd with
    | refl => exact absurd rfl hne
    | @child parent before node after hp hn ih =>
      by_cases htop : parent = top
      · subst htop
        exact mem_descendants_of_child hn helement
      · -- what has nodes and is not the page is an element
        have hparent : parent.isElement = true := by
          cases hp with
          | refl => exact absurd rfl htop
          | @child _ _ node _ _ _ =>
            cases node with
            | element => rfl
            | text => exact absurd hn (by simp [nodes, Markup.children])
        exact descendants_subset (ih htop hparent) (mem_descendants_of_child hn helement)

/-- What is below a spot within another one is below that one too. -/
theorem IsBelow.of_within (h : IsBelow d a) (ha : Within top a) : IsBelow d top := by
  refine ⟨ha.trans h.1, ?_, h.2.2⟩
  rintro rfl
  exact h.2.1 (Within.refl.eq_of_address ha (h.1.suffix.eq_of_length_le ha.suffix.length_le).symm)

end SiteReader.Markup.Spot
