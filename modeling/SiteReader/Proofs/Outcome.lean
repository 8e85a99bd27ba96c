import SiteReader.Notes

/-!
# Outcomes of computations

A computation that keeps a state and may fail comes to an outcome: how it ends, and the state that it leaves, also when
it fails.  The outcome of a composed computation is that of its parts, one after the other (`outcome_bind`); it fails where one
of them does (`outcome_bind_eq_error_iff`), and what its parts preserve, it preserves (`Preserves.bind`).
-/

namespace SiteReader

variable {ε ε' σ α β : Type}

/-- How a computation ends when it starts in a state, and the state that it leaves. -/
def outcome (x : ExceptT ε (StateM σ) α) (s : σ) : Except ε α × σ :=
  x.run.run s

@[simp] theorem outcome_pure (a : α) (s : σ) : outcome (pure a : ExceptT ε (StateM σ) α) s = (.ok a, s) := rfl

@[simp] theorem outcome_throw (e : ε) (s : σ) : outcome (throw e : ExceptT ε (StateM σ) α) s = (.error e, s) := rfl

@[simp] theorem outcome_get (s : σ) : outcome (get : ExceptT ε (StateM σ) σ) s = (.ok s, s) := rfl

@[simp] theorem outcome_set (t s : σ) : outcome (set t : ExceptT ε (StateM σ) PUnit) s = (.ok ⟨⟩, t) := rfl

@[simp] theorem outcome_modify (f : σ → σ) (s : σ) :
    outcome (modify f : ExceptT ε (StateM σ) PUnit) s = (.ok ⟨⟩, f s) := rfl

@[simp] theorem mapError_ok (f : ε → ε') (a : α) : (Except.ok a : Except ε α).mapError f = .ok a := rfl

theorem eq_error_of_map {f : α → β} {x : Except ε α} {e : ε} (h : x.map f = .error e) : x = .error e := by
  cases x with
  | error e' => exact congrArg Except.error (Except.error.inj h)
  | ok a => cases h

theorem outcome_bind (x : ExceptT ε (StateM σ) α) (f : α → ExceptT ε (StateM σ) β) (s : σ) :
    outcome (x >>= f) s = match outcome x s with
      | (.ok a, t) => outcome (f a) t
      | (.error e, t) => (.error e, t) := by
  show (ExceptT.bind x f).run.run s = _
  simp only [outcome, ExceptT.bind, ExceptT.run, ExceptT.mk, StateT.run_bind]
  rcases h : x.run.run s with ⟨_ | _, t⟩ <;> simp only [ExceptT.run] at h <;> simp [h, ExceptT.bindCont] <;> rfl

/-- After a first part that ends well a composed computation goes on with the second one. -/
theorem outcome_bind_of_ok {x : ExceptT ε (StateM σ) α} {s : σ} {a : α} (h : (outcome x s).1 = .ok a)
    (f : α → ExceptT ε (StateM σ) β) : outcome (x >>= f) s = outcome (f a) (outcome x s).2 := by
  have hx : outcome x s = (.ok a, (outcome x s).2) := Prod.ext h rfl
  rw [outcome_bind, hx]

/-- A composed computation ends well if its parts do. -/
theorem outcome_bind_eq_ok_iff {x : ExceptT ε (StateM σ) α} {f : α → ExceptT ε (StateM σ) β} {s : σ} {b : β} :
    (outcome (x >>= f) s).1 = .ok b ↔
      ∃ a, (outcome x s).1 = .ok a ∧ (outcome (f a) (outcome x s).2).1 = .ok b := by
  rw [outcome_bind]
  rcases outcome x s with ⟨_ | a, t⟩ <;> simp

/-- A composed computation fails in its first part, or in the second one. -/
theorem outcome_bind_eq_error_iff {x : ExceptT ε (StateM σ) α} {f : α → ExceptT ε (StateM σ) β} {s : σ} {e : ε} :
    (outcome (x >>= f) s).1 = .error e ↔ (outcome x s).1 = .error e ∨
      ∃ a, (outcome x s).1 = .ok a ∧ (outcome (f a) (outcome x s).2).1 = .error e := by
  rw [outcome_bind]
  rcases outcome x s with ⟨_ | a, t⟩ <;> simp

theorem outcome_bind_eq_error_iff_left {x : ExceptT ε (StateM σ) α} {f : α → ExceptT ε (StateM σ) β} {s : σ} {e : ε}
    (h : ∀ a s, (outcome (f a) s).1 ≠ .error e) :
    (outcome (x >>= f) s).1 = .error e ↔ (outcome x s).1 = .error e := by
  rw [outcome_bind_eq_error_iff]
  exact or_iff_left fun ⟨a, _, hf⟩ => h a _ hf

/-- What follows a first part counts only for what that part comes to. -/
theorem outcome_bind_congr {x : ExceptT ε (StateM σ) α} {f g : α → ExceptT ε (StateM σ) β} {s : σ}
    (h : ∀ a, (outcome x s).1 = .ok a → f a = g a) : outcome (x >>= f) s = outcome (x >>= g) s := by
  rw [outcome_bind, outcome_bind]
  revert h
  rcases outcome x s with ⟨_ | a, t⟩
  · exact fun _ => rfl
  · exact fun h => congrArg (outcome · t) (h a rfl)

theorem outcome_map (f : α → β) (x : ExceptT ε (StateM σ) α) (s : σ) :
    outcome (f <$> x) s = ((outcome x s).1.map f, (outcome x s).2) := by
  rw [map_eq_pure_bind, outcome_bind]
  rcases outcome x s with ⟨_ | _, t⟩ <;> rfl

theorem outcome_tryCatch (x : ExceptT ε (StateM σ) α) (f : ε → ExceptT ε (StateM σ) α) (s : σ) :
    outcome (tryCatch x f) s = match outcome x s with
      | (.ok a, t) => (.ok a, t)
      | (.error e, t) => outcome (f e) t := by
  show (ExceptT.tryCatch x f).run.run s = _
  simp only [outcome, ExceptT.tryCatch, ExceptT.run, ExceptT.mk, StateT.run_bind]
  rcases h : x.run.run s with ⟨_ | _, t⟩ <;> simp only [ExceptT.run] at h <;> simp [h] <;> rfl

/-! ### What a computation preserves -/

/-- However a computation ends, a property of the state that held before holds afterwards. -/
def Preserves (P : σ → Prop) (x : ExceptT ε (StateM σ) α) : Prop :=
  ∀ s, P s → P (outcome x s).2

namespace Preserves

variable {P : σ → Prop}

protected theorem pure (a : α) : Preserves P (pure a : ExceptT ε (StateM σ) α) :=
  fun _ h => h

protected theorem throw (e : ε) : Preserves P (throw e : ExceptT ε (StateM σ) α) :=
  fun _ h => h

protected theorem get : Preserves P (get : ExceptT ε (StateM σ) σ) :=
  fun _ h => h

protected theorem bind {x : ExceptT ε (StateM σ) α} {f : α → ExceptT ε (StateM σ) β} (hx : Preserves P x)
    (hf : ∀ a, Preserves P (f a)) : Preserves P (x >>= f) := by
  intro s h
  have hs := hx s h
  rw [outcome_bind]
  revert hs
  rcases outcome x s with ⟨_ | a, t⟩
  · exact id
  · exact hf a t

end Preserves

end SiteReader
