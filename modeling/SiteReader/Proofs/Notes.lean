import Mathlib.Data.List.Forall2
import SiteReader.Proofs.Outcome

/-!
# What computations note

Computations add to the notes and do not look at them: how they end and what they add is the same whatever has been noted
before (`Adds`).  Many call no evaluator (`IsSilent`), and one computation may do just what another does, but for the calls
that it makes (`Mirrors`).  All of this is kept when computations are composed, and so are that two computations end alike
(`Agrees`) and what holds of all that a computation gives (`Yields`).
-/

namespace SiteReader.Noted

variable {α β : Type}

/-- Whatever has been noted before, a computation ends with this result and adds these warnings and calls. -/
def Adds (x : Noted α) (result : Except Fault α) (warnings : List Warning) (calls : List (String × Tree)) : Prop :=
  ∀ notes, outcome x notes = (result, ⟨notes.warnings ++ warnings, notes.calls ++ calls⟩)

/-- How a computation ends and what it adds to the notes does not depend on them. -/
def IsUniform (x : Noted α) : Prop :=
  ∃ result warnings calls, Adds x result warnings calls

/-- A uniform computation calls no evaluator. -/
def IsSilent (x : Noted α) : Prop :=
  ∃ result warnings, Adds x result warnings []

/-- Two computations end alike and warn alike, and the first one calls no evaluator. -/
def Mirrors (x y : Noted α) : Prop :=
  ∃ result warnings calls, Adds x result warnings [] ∧ Adds y result warnings calls

/-! ### Single steps -/

namespace Adds

protected theorem pure (a : α) : Adds (pure a) (.ok a) [] [] := by
  intro notes
  simp

protected theorem throw (fault : Fault) : Adds (throw fault : Noted α) (.error fault) [] [] := by
  intro notes
  simp

protected theorem ofExcept (result : Except Fault α) : Adds (ofExcept result) result [] [] := by
  cases result with
  | ok a => exact .pure a
  | error fault => exact .throw fault

theorem warn (warning : Warning) : Adds (warn warning) (.ok ()) [warning] [] := by
  intro notes
  rw [List.append_nil]
  rfl

theorem noteCall (script : String) (value : Tree) : Adds (noteCall script value) (.ok ()) [] [(script, value)] := by
  intro notes
  rw [List.append_nil]
  rfl

variable {x : Noted α} {f : α → Noted β} {warnings others : List Warning} {calls further : List (String × Tree)}

theorem bind {a : α} {result : Except Fault β} (hx : Adds x (.ok a) warnings calls) (hf : Adds (f a) result others further) :
    Adds (x >>= f) result (warnings ++ others) (calls ++ further) := by
  intro notes
  rw [outcome_bind, hx notes]
  dsimp only
  rw [hf, List.append_assoc, List.append_assoc]

theorem bind_error {fault : Fault} (hx : Adds x (.error fault) warnings calls) :
    Adds (x >>= f) (.error fault) warnings calls := by
  intro notes
  rw [outcome_bind, hx notes]

end Adds

/-! ### Uniform computations -/

namespace IsUniform

variable {x : Noted α}

theorem adds_outcome (h : IsUniform x) :
    Adds x (outcome x Notes.empty).1 (outcome x Notes.empty).2.warnings (outcome x Notes.empty).2.calls := by
  obtain ⟨result, warnings, calls, hx⟩ := h
  rw [hx Notes.empty]
  exact hx

/-- What has been noted before makes no difference. -/
theorem outcome_fst (h : IsUniform x) (notes : Notes) : (outcome x notes).1 = (outcome x Notes.empty).1 := by
  rw [h.adds_outcome notes]

theorem bind {f : α → Noted β} (hx : IsUniform x) (hf : ∀ a, IsUniform (f a)) : IsUniform (x >>= f) := by
  obtain ⟨result, warnings, calls, hx⟩ := hx
  cases result with
  | error fault => exact ⟨_, _, _, hx.bind_error⟩
  | ok a =>
    obtain ⟨result, others, further, hf⟩ := hf a
    exact ⟨_, _, _, hx.bind hf⟩

/-- A list is gone through to its end if each of its items is. -/
theorem mapM_eq_ok_iff {f : α → Noted β} (h : ∀ a, IsUniform (f a)) {items : List α} {results : List β} {notes : Notes} :
    (outcome (items.mapM f) notes).1 = .ok results ↔
      List.Forall₂ (fun a b => (outcome (f a) Notes.empty).1 = .ok b) items results := by
  induction items generalizing results notes with
  | nil =>
    rw [List.mapM_nil, outcome_pure, List.forall₂_nil_left_iff, Except.ok.injEq]
    exact eq_comm
  | cons a rest ih =>
    rw [List.mapM_cons, List.forall₂_cons_left_iff, outcome_bind_eq_ok_iff]
    simp only [outcome_bind_eq_ok_iff, (h a).outcome_fst, ih, outcome_pure, Except.ok.injEq]
    constructor
    · rintro ⟨b, hb, others, hothers, rfl⟩
      exact ⟨b, others, hb, hothers, rfl⟩
    · rintro ⟨b, others, hb, hothers, rfl⟩
      exact ⟨b, hb, others, hothers, rfl⟩

theorem mapM {f : α → Noted β} (h : ∀ a, IsUniform (f a)) (items : List α) : IsUniform (items.mapM f) := by
  induction items with
  | nil => exact ⟨_, _, _, .pure []⟩
  | cons a rest ih =>
    rw [List.mapM_cons]
    exact (h a).bind fun b => ih.bind fun others => ⟨_, _, _, .pure (b :: others)⟩

end IsUniform

theorem mapM_congr {f g : α → Noted β} {items : List α} (h : ∀ a ∈ items, f a = g a) : items.mapM f = items.mapM g := by
  induction items with
  | nil => rfl
  | cons a rest ih =>
    obtain ⟨ha, hrest⟩ := List.forall_mem_cons.mp h
    rw [List.mapM_cons, List.mapM_cons, ha, ih hrest]

/-! ### Silent computations -/

namespace IsSilent

protected theorem pure (a : α) : IsSilent (pure a) :=
  ⟨_, _, .pure a⟩

protected theorem throw (fault : Fault) : IsSilent (throw fault : Noted α) :=
  ⟨_, _, .throw fault⟩

protected theorem ofExcept (result : Except Fault α) : IsSilent (ofExcept result) :=
  ⟨_, _, .ofExcept result⟩

theorem warn (warning : Warning) : IsSilent (warn warning) :=
  ⟨_, _, .warn warning⟩

variable {x : Noted α}

theorem uniform (h : IsSilent x) : IsUniform x := by
  obtain ⟨result, warnings, hx⟩ := h
  exact ⟨_, _, _, hx⟩

theorem mirrors (h : IsSilent x) : Mirrors x x := by
  obtain ⟨result, warnings, hx⟩ := h
  exact ⟨_, _, _, hx, hx⟩

theorem calls (h : IsSilent x) (notes : Notes) : (outcome x notes).2.calls = notes.calls := by
  obtain ⟨result, warnings, hx⟩ := h
  rw [hx notes]
  exact List.append_nil _

theorem bind {f : α → Noted β} (hx : IsSilent x) (hf : ∀ a, IsSilent (f a)) : IsSilent (x >>= f) := by
  obtain ⟨result, warnings, hx⟩ := hx
  cases result with
  | error fault => exact ⟨_, _, hx.bind_error⟩
  | ok a =>
    obtain ⟨result, others, hf⟩ := hf a
    exact ⟨_, _, hx.bind hf⟩

end IsSilent

/-! ### Computations that differ in their calls -/

namespace Mirrors

variable {x y : Noted α}

theorem bind {f g : α → Noted β} (h : Mirrors x y) (hf : ∀ a, Mirrors (f a) (g a)) : Mirrors (x >>= f) (y >>= g) := by
  obtain ⟨result, warnings, calls, hx, hy⟩ := h
  cases result with
  | error fault => exact ⟨_, _, _, hx.bind_error, hy.bind_error⟩
  | ok a =>
    obtain ⟨result, others, further, hf, hg⟩ := hf a
    exact ⟨_, _, _, hx.bind hf, hy.bind hg⟩

theorem mapM {f g : α → Noted β} (h : ∀ a, Mirrors (f a) (g a)) (items : List α) :
    Mirrors (items.mapM f) (items.mapM g) := by
  induction items with
  | nil => exact (IsSilent.pure []).mirrors
  | cons a rest ih =>
    rw [List.mapM_cons, List.mapM_cons]
    exact (h a).bind fun b => ih.bind fun others => (IsSilent.pure (b :: others)).mirrors

end Mirrors

/-! ### Computations that end alike -/

/-- Two computations end alike, whatever has been noted before. -/
def Agrees (x y : Noted α) : Prop :=
  ∀ notes others, (outcome x notes).1 = (outcome y others).1

theorem IsUniform.agrees {x : Noted α} (h : IsUniform x) : Agrees x x := by
  intro notes others
  rw [h.outcome_fst notes, h.outcome_fst others]

theorem Agrees.bind {x y : Noted α} {f g : α → Noted β} (h : Agrees x y) (hf : ∀ a, Agrees (f a) (g a)) :
    Agrees (x >>= f) (y >>= g) := by
  intro notes others
  have hxy := h notes others
  rw [outcome_bind, outcome_bind]
  revert hxy
  rcases outcome x notes with ⟨_ | a, t⟩ <;> rcases outcome y others with ⟨_ | b, u⟩ <;> rintro ⟨⟩
  · rfl
  · exact hf a t u

/-! ### What computations give -/

/-- A property holds of whatever a computation gives. -/
def Yields (P : α → Prop) (x : Noted α) : Prop :=
  ∀ notes a, (outcome x notes).1 = .ok a → P a

namespace Yields

variable {P : α → Prop} {Q : β → Prop}

protected theorem pure {a : α} (h : P a) : Yields P (pure a) := by
  rintro notes _ ⟨⟩
  exact h

protected theorem ofExcept {result : Except Fault α} (h : ∀ a, result = .ok a → P a) : Yields P (ofExcept result) := by
  cases result with
  | ok a => exact .pure (h a rfl)
  | error fault => rintro notes a ⟨⟩

theorem bind {x : Noted α} {f : α → Noted β} (hx : Yields P x) (hf : ∀ a, P a → Yields Q (f a)) : Yields Q (x >>= f) := by
  intro notes b hb
  obtain ⟨a, ha, hb⟩ := outcome_bind_eq_ok_iff.mp hb
  exact hf a (hx notes a ha) _ b hb

end Yields

end SiteReader.Noted
