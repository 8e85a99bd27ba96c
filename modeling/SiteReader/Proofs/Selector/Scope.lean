import SiteReader.Proofs.Markup.Spot
import SiteReader.Selector.Matcher

/-!
# Selectors and the place of the search

A selector looks at the whole page, wherever the search starts: only `:scope` asks for the element that it starts from.
Selectors without it fit the same elements in every search within a page (`steady_of_unscoped`).
-/

namespace SiteReader.Selector

open Markup (Spot)

/-! ### Selectors that do not ask where the search starts -/

mutual

/-- Whether a selector is without `:scope`. -/
def isUnscoped : Selector → Bool
  | .never => true
  | .all tests tie => areUnscoped tests && Tie.isUnscoped tie

def Tie.isUnscoped : Tie → Bool
  | .free => true
  | .back _ other => Selector.isUnscoped other
  | .ahead _ other => Selector.isUnscoped other

def Test.isUnscoped : Test → Bool
  | .scope => false
  | .position _ _ _ among => allUnscoped among
  | .anyOf _ selectors => allUnscoped selectors
  | _ => true

def areUnscoped : List Test → Bool
  | [] => true
  | test :: rest => Test.isUnscoped test && areUnscoped rest

/-- Whether each of some selectors is without `:scope`. -/
def allUnscoped : List Selector → Bool
  | [] => true
  | selector :: rest => isUnscoped selector && allUnscoped rest

end

section

variable {range other : Range}

mutual

private theorem fits_congr (hroot : range.root? = other.root?) : ∀ {selector : Selector}, isUnscoped selector = true →
    ∀ spot, fits range spot selector = fits other spot selector
  | .never, _, _ => rfl
  | .all tests tie, h, spot => by
    rw [isUnscoped, Bool.and_eq_true] at h
    rw [fits, fits, allHold_congr hroot h.1, tied_congr hroot h.2]

private theorem tied_congr (hroot : range.root? = other.root?) : ∀ {tie : Tie}, Tie.isUnscoped tie = true →
    ∀ spot, tied range spot tie = tied other spot tie
  | .free, _, _ => rfl
  | .back combinator selector, h, spot => by
    have hfits := funext (fits_congr hroot h)
    cases combinator <;> simp only [tied, hfits]
  | .ahead combinator selector, h, spot => by
    have hfits := funext (fits_congr hroot h)
    cases combinator <;> simp only [tied, hfits]

private theorem passes_congr (hroot : range.root? = other.root?) : ∀ {test : Test}, Test.isUnscoped test = true →
    ∀ spot, passes range spot test = passes other spot test
  | .root, _, spot => by rw [passes, passes, isRoot, isRoot, hroot]
  | .position cycle fromEnd sameName among, h, spot => by simp only [passes, fitsAny_congr hroot h]
  | .anyOf negated selectors, h, spot => by rw [passes, passes, fitsAny_congr hroot h]
  | .name .., _, _ => rfl
  | .identifier _, _, _ => rfl
  | .inClass _, _, _ => rfl
  | .valued _, _, _ => rfl
  | .empty, _, _ => rfl
  | .defined, _, _ => rfl
  | .mentions .., _, _ => rfl
  | .language _, _, _ => rfl
  | .blank, _, _ => rfl

private theorem allHold_congr (hroot : range.root? = other.root?) : ∀ {tests : List Test}, areUnscoped tests = true →
    ∀ spot, allHold range spot tests = allHold other spot tests
  | [], _, _ => rfl
  | test :: rest, h, spot => by
    rw [areUnscoped, Bool.and_eq_true] at h
    rw [allHold, allHold, passes_congr hroot h.1, allHold_congr hroot h.2]

/-- Selectors without `:scope` depend on the range of the search by its root only. -/
theorem fitsAny_congr (hroot : range.root? = other.root?) : ∀ {selectors : List Selector}, allUnscoped selectors = true →
    ∀ spot, fitsAny range spot selectors = fitsAny other spot selectors
  | [], _, _ => rfl
  | selector :: rest, h, spot => by
    rw [allUnscoped, Bool.and_eq_true] at h
    rw [fitsAny, fitsAny, fits_congr hroot h.1, fitsAny_congr hroot h.2]

end

end

/-! ### Searches within a page -/

/-- Whether one of the selectors fits an element does not depend on where within a spot the search starts. -/
def Steady (top : Spot) (selectors : List Selector) : Prop :=
  ∀ spot, Spot.Within top spot → ∀ s ∈ spot.descendants,
    fitsAny (Range.ofSpot spot) s selectors = fitsAny (Range.ofSpot top) s selectors

theorem root?_ofSpot {top spot : Spot} (h : Spot.Within top spot) : (Range.ofSpot spot).root? = (Range.ofSpot top).root? := by
  induction h with
  | refl => rfl
  | child hp hn ih =>
    rw [← ih]
    simp only [Range.ofSpot, Spot.ancestors, List.getLast?_cons_cons]

theorem steady_of_unscoped {selectors : List Selector} (h : allUnscoped selectors = true) (top : Spot) :
    Steady top selectors :=
  fun _ hspot s _ => fitsAny_congr (root?_ofSpot hspot) h s

end SiteReader.Selector
