import Mathlib.Data.List.Forall2
import Mathlib.Data.List.Induction
import SiteReader.Excerpt.Page
import SiteReader.Proofs.Selector.Scope

/-!
# Chains of selectors

The steps of a chain are followed one after the other, each from all that the one before has found, and what is found from
several elements is taken once.  Without places in the steps, the chain finds the elements that a chain of elements leads to,
in document order (`chain_in_order`): of the elements that a step starts from, an inner one finds nothing that an outer one
has not found before, and all else that it finds comes later (`pairwise_distinctSpots`).
-/

namespace SiteReader.Excerpt

open Markup (Spot)
open Markup.Spot (Precedes Within)
open Selector (Range Steady fitsAny)

/-! ### Taking each spot once -/

private def addSpot (found : List (List Nat × Spot)) (spot : Spot) : List (List Nat × Spot) :=
  if found.any (·.1 = spot.address) then found else (spot.address, spot) :: found

private theorem any_foldl_addSpot (spots : List Spot) (address : List Nat) :
    (spots.foldl addSpot []).any (·.1 = address) = spots.any (·.address = address) := by
  induction spots using List.reverseRecOn with
  | nil => rfl
  | append_singleton spots spot ih =>
    rw [List.foldl_append, List.foldl_cons, List.foldl_nil, addSpot, List.any_append, ← ih]
    split
    next h =>
      by_cases heq : spot.address = address
      · rw [← heq, h, Bool.true_or]
      · simp [heq]
    next => simp [Bool.or_comm]

/-- A spot that comes last is kept unless there was one with its address before. -/
theorem distinctSpots_concat (spots : List Spot) (spot : Spot) :
    distinctSpots (spots ++ [spot]) =
      if ∃ s ∈ spots, s.address = spot.address then distinctSpots spots else distinctSpots spots ++ [spot] := by
  have hany : (spots.foldl addSpot []).any (·.1 = spot.address) = true ↔ ∃ s ∈ spots, s.address = spot.address := by
    rw [any_foldl_addSpot, List.any_eq_true]
    simp only [decide_eq_true_eq]
  show ((spots ++ [spot]).foldl addSpot []).reverse.map (·.2) = _
  rw [List.foldl_append, List.foldl_cons, List.foldl_nil, addSpot]
  simp only [hany]
  split
  next => rfl
  next =>
    rw [List.reverse_cons, List.map_append]
    rfl

theorem distinctSpots_sublist (spots : List Spot) : (distinctSpots spots).Sublist spots := by
  induction spots using List.reverseRecOn with
  | nil => exact .refl _
  | append_singleton spots spot ih =>
    rw [distinctSpots_concat]
    split
    next => exact ih.trans (List.sublist_append_left _ _)
    next => exact ih.append_right [spot]

/-- Within a spot, taking each spot once loses none. -/
theorem mem_distinctSpots {top : Spot} {spots : List Spot} (h : ∀ spot ∈ spots, Within top spot) {spot : Spot} :
    spot ∈ distinctSpots spots ↔ spot ∈ spots := by
  refine ⟨fun hspot => (distinctSpots_sublist spots).subset hspot, fun hspot => ?_⟩
  induction spots using List.reverseRecOn with
  | nil => exact hspot
  | append_singleton spots last ih =>
    have hbefore := ih fun s hs => h s (List.mem_append_left _ hs)
    rw [distinctSpots_concat]
    split
    next hseen =>
      refine hbefore ((List.mem_append.mp hspot).elim id fun hlast => ?_)
      obtain rfl := List.mem_singleton.mp hlast
      obtain ⟨s, hs, haddress⟩ := hseen
      rwa [(h s (List.mem_append_left _ hs)).eq_of_address (h spot hspot) haddress] at hs
    next => exact List.mem_append.mpr ((List.mem_append.mp hspot).imp_left hbefore)

/-- The order of some spots is kept when others follow, if what is new among those comes later. -/
theorem pairwise_distinctSpots_append {R : Spot → Spot → Prop} {spots others : List Spot}
    (hs : (distinctSpots spots).Pairwise R) (ho : others.Pairwise R)
    (hnew : ∀ a ∈ spots, ∀ b ∈ others, (∀ s ∈ spots, s.address ≠ b.address) → R a b) :
    (distinctSpots (spots ++ others)).Pairwise R := by
  induction others using List.reverseRecOn with
  | nil => rwa [List.append_nil]
  | append_singleton others last ih =>
    obtain ⟨hothers, -, hlast⟩ := List.pairwise_append.mp ho
    have hbefore := ih hothers fun a ha b hb => hnew a ha b (List.mem_append_left _ hb)
    rw [← List.append_assoc, distinctSpots_concat]
    split
    next => exact hbefore
    next hseen =>
      refine List.pairwise_append.mpr ⟨hbefore, List.pairwise_singleton _ _, fun a ha b hb => ?_⟩
      obtain rfl := List.mem_singleton.mp hb
      rcases List.mem_append.mp ((distinctSpots_sublist _).subset ha) with ha | ha
      · exact hnew a ha b (List.mem_append_right _ hb) fun s hs heq => hseen ⟨s, List.mem_append_left _ hs, heq⟩
      · exact hlast a ha b hb

/-! ### One step -/

section

variable {top : Spot} {spots : List Spot}

/-- What is found from spots in document order is in document order. -/
theorem pairwise_distinctSpots (h : ∀ spot ∈ spots, Within top spot) (ho : spots.Pairwise Precedes) (p : Spot → Bool) :
    (distinctSpots (spots.flatMap fun spot => spot.descendants.filter p)).Pairwise Precedes := by
  -- on the spots from the last one: what is new from there comes after all that was found before
  induction spots using List.reverseRecOn with
  | nil => exact .nil
  | append_singleton spots last ih =>
    obtain ⟨hbefore, -, hlast⟩ := List.pairwise_append.mp ho
    have hspots : ∀ spot ∈ spots, Within top spot := fun spot hs => h spot (List.mem_append_left _ hs)
    rw [List.flatMap_append, List.flatMap_singleton]
    refine pairwise_distinctSpots_append (ih hspots hbefore) (last.pairwise_descendants.filter p) fun a ha b hb hnew => ?_
    obtain ⟨spot, hspot, ha⟩ := List.mem_flatMap.mp ha
    obtain ⟨hb, hp⟩ := List.mem_filter.mp hb
    have ha := Spot.mem_descendants_iff.mp (List.mem_filter.mp ha).1
    have hb := Spot.mem_descendants_iff.mp hb
    have hprecedes : Precedes spot last := hlast spot hspot last List.mem_cons_self
    refine hprecedes.within (hspots spot hspot) (h last (List.mem_append_right _ List.mem_cons_self)) ?_ ha.1 hb.1
    intro hinner
    have hfound : b ∈ spot.descendants.filter p :=
      List.mem_filter.mpr ⟨Spot.mem_descendants_iff.mpr (hb.of_within hinner), hp⟩
    exact hnew b (List.mem_flatMap.mpr ⟨spot, hspot, hfound⟩) rfl

/-- The text of a step that is a valid selector, without places. -/
def IsPlainStep (text : String) (selectors : List Selector) : Prop :=
  ∃ selector, selector ≠ "" ∧ Step.parse text = .ok ⟨selector, none, none⟩ ∧ Selector.parse selector = .ok selectors

/-- A step that can be read, with a selector without `:scope`. -/
theorem exists_isPlainStep {text selector : String} (hne : selector ≠ "")
    (hstep : Step.parse text = .ok ⟨selector, none, none⟩)
    (hp : (Selector.parse selector).toOption.any Selector.allUnscoped = true) :
    ∃ selectors, IsPlainStep text selectors ∧ ∀ top, Steady top selectors := by
  obtain ⟨selectors, hselectors, hunscoped⟩ := (Option.any_eq_true _ _).mp hp
  cases hread : Selector.parse selector with
  | error defect => rw [hread] at hselectors; cases hselectors
  | ok found =>
    rw [hread] at hselectors
    obtain rfl : found = selectors := Option.some.inj hselectors
    exact ⟨found, ⟨selector, hne, hstep, hread⟩, Selector.steady_of_unscoped hunscoped⟩

theorem select_of_steady {selectors : List Selector} (hs : Steady top selectors) {spot : Spot} (h : Within top spot) :
    Selector.select spot selectors = spot.descendants.filter fun s => fitsAny (Range.ofSpot top) s selectors :=
  List.filter_congr fun s hbelow => hs spot h s hbelow

/-- A step without places finds what fits below any of the spots, in document order. -/
theorem follow_plain {selector : String} {selectors : List Selector} (hp : Selector.parse selector = .ok selectors)
    (hs : Steady top selectors) (h : ∀ spot ∈ spots, Within top spot) (ho : spots.Pairwise Precedes) :
    ∃ found, follow ⟨selector, none, none⟩ spots = .ok (some found) ∧ found.Pairwise Precedes ∧
      ∀ d, d ∈ found ↔ ∃ spot ∈ spots, d.IsBelow spot ∧ fitsAny (Range.ofSpot top) d selectors = true := by
  have hselect {spot : Spot} (hspot : Within top spot) (d : Spot) : d ∈ Selector.select spot selectors ↔
      d.IsBelow spot ∧ fitsAny (Range.ofSpot top) d selectors = true := by
    rw [select_of_steady hs hspot, List.mem_filter, Spot.mem_descendants_iff]
  rcases spots with _ | ⟨spot, _ | ⟨next, rest⟩⟩
  · exact ⟨[], rfl, .nil, by simp⟩
  · refine ⟨Selector.select spot selectors, ?_, spot.pairwise_descendants.filter _, fun d => ?_⟩
    · simp only [follow, hp]
      rfl
    · rw [hselect (h spot List.mem_cons_self)]
      simp
  · have hall : ((spot :: next :: rest).flatMap fun s => Selector.select s selectors) =
        (spot :: next :: rest).flatMap fun s => s.descendants.filter fun s => fitsAny (Range.ofSpot top) s selectors :=
      List.flatMap_congr fun s hspot => select_of_steady hs (h s hspot)
    refine ⟨distinctSpots ((spot :: next :: rest).flatMap fun s => Selector.select s selectors), ?_, ?_, fun d => ?_⟩
    · simp only [follow, hp]
      rfl
    · rw [hall]
      exact pairwise_distinctSpots h ho _
    · have hwithin : ∀ d ∈ (spot :: next :: rest).flatMap fun s => Selector.select s selectors, Within top d := by
        intro d hd
        obtain ⟨s, hspot, hd⟩ := List.mem_flatMap.mp hd
        exact (h s hspot).trans ((hselect (h s hspot) d).mp hd).1.1
      rw [mem_distinctSpots hwithin, List.mem_flatMap]
      exact exists_congr fun s => and_congr_right fun hspot => hselect (h s hspot) d

end

/-! ### All steps -/

/-- A chain of elements, each below the one before and fitting its selectors, leads from a spot to another one. -/
def Leads (range : Range) : List (List Selector) → Spot → Spot → Prop
  | [], spot, d => d = spot
  | selectors :: rest, spot, d => ∃ e, e.IsBelow spot ∧ fitsAny range e selectors = true ∧ Leads range rest e d

theorem followAll_plain {top : Spot} {texts : List String} {chain : List (List Selector)}
    (ht : List.Forall₂ IsPlainStep texts chain) (hs : ∀ selectors ∈ chain, Steady top selectors) {spots : List Spot}
    (h : ∀ spot ∈ spots, Within top spot) (ho : spots.Pairwise Precedes) :
    ∃ found, followAll texts spots = .ok (some found) ∧ found.Pairwise Precedes ∧
      ∀ d, d ∈ found ↔ ∃ spot ∈ spots, Leads (Range.ofSpot top) chain spot d := by
  induction ht generalizing spots with
  | nil => exact ⟨spots, rfl, ho, fun d => by simp [Leads]⟩
  | @cons text selectors texts chain htext _ ih =>
    obtain ⟨hsteady, hrest⟩ := List.forall_mem_cons.mp hs
    obtain ⟨selector, hne, hstep, hp⟩ := htext
    obtain ⟨found, hfollow, hfound, hmem⟩ := follow_plain hp hsteady h ho
    have hwithin : ∀ e ∈ found, Within top e := by
      intro e he
      obtain ⟨spot, hspot, hbelow, -⟩ := (hmem e).mp he
      exact (h spot hspot).trans hbelow.1
    obtain ⟨reached, hall, horder, hreached⟩ := ih hrest hwithin hfound
    refine ⟨reached, ?_, horder, fun d => ?_⟩
    · rw [followAll, hstep]
      simp only [bind, Except.bind, String.isEmpty_iff, hne, ↓reduceIte, hfollow, hall]
    · rw [hreached]
      constructor
      · rintro ⟨e, he, hleads⟩
        obtain ⟨spot, hspot, hbelow, hfits⟩ := (hmem e).mp he
        exact ⟨spot, hspot, e, hbelow, hfits, hleads⟩
      · rintro ⟨spot, hspot, e, hbelow, hfits, hleads⟩
        exact ⟨e, (hmem e).mpr ⟨spot, hspot, hbelow, hfits⟩, hleads⟩

/-- A chain whose steps have no places finds, in document order and each once, just the elements that a chain of elements
leads to, each below the one before and fitting its step. -/
theorem chain_in_order {top : Spot} {texts : List String} {chain : List (List Selector)}
    (ht : List.Forall₂ IsPlainStep texts chain) (hs : ∀ selectors ∈ chain, Steady top selectors) :
    ∃ found, followAll texts [top] = .ok (some found) ∧ found.Pairwise Precedes ∧ found.Nodup ∧
      ∀ d, d ∈ found ↔ Leads (Range.ofSpot top) chain top d := by
  have htop : ∀ spot ∈ [top], Within top spot := List.forall_mem_singleton.mpr .refl
  obtain ⟨found, hall, horder, hfound⟩ := followAll_plain ht hs htop (List.pairwise_singleton _ _)
  have hnodup : found.Nodup := by
    refine horder.imp ?_
    rintro a _ hab rfl
    exact a.not_precedes_self hab
  exact ⟨found, hall, horder, hnodup, fun d => by simp [hfound]⟩

/-- A paragraph within two divisions is found from both of them, and taken once, before the one that comes after it. -/
theorem chain_in_order_nested :
    let page := Spot.page [.element "div" [] [.element "div" [] [.element "p" [] []], .element "p" [] []]]
    ∃ chain found, (List.Forall₂ IsPlainStep ["tag.div", "p"] chain ∧ ∀ selectors ∈ chain, Steady page selectors) ∧
      followAll ["tag.div", "p"] [page] = .ok (some found) ∧ found.map Spot.place = [[0, 0, 0], [0, 1]] ∧
      found.Pairwise Precedes ∧ found.Nodup ∧ ∀ d, d ∈ found ↔ Leads (Range.ofSpot page) chain page d := by
  intro page
  obtain ⟨first, hfirst, hsteady⟩ :=
    @exists_isPlainStep "tag.div" "div" (by decide) (by decide +kernel) (by decide +kernel)
  obtain ⟨second, hsecond, hsteady'⟩ :=
    @exists_isPlainStep "p" "p" (by decide) (by decide +kernel) (by decide +kernel)
  have hread : List.Forall₂ IsPlainStep ["tag.div", "p"] [first, second] := .cons hfirst (.cons hsecond .nil)
  have hall : ∀ selectors ∈ [first, second], Steady page selectors :=
    List.forall_mem_cons.mpr ⟨hsteady page, List.forall_mem_singleton.mpr (hsteady' page)⟩
  obtain ⟨found, hfound, horder, hnodup, hmem⟩ := chain_in_order hread hall
  have hplaces : ((followAll ["tag.div", "p"] [page]).toOption.bind id).map (·.map Spot.place) =
      some [[0, 0, 0], [0, 1]] := by decide +kernel
  rw [hfound] at hplaces
  exact ⟨[first, second], found, ⟨hread, hall⟩, hfound, Option.some.inj hplaces, horder, hnodup, hmem⟩

end SiteReader.Excerpt
