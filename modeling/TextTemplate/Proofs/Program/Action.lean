import TextTemplate.Program.Execute

/-!
# Actions from a state

- `Action.on`: what an action gives from a state, and the state after it.
- `Action.ext`: actions that give the same from every state are equal.
- `on_pure`, `on_throw`, `on_bind`, `on_mapError`: what the parts of an action give.
- `fst_on_bind`: what the second of two actions gives, if the first one succeeds.
-/

namespace TextTemplate

namespace Action

variable {σ χ ψ α β : Type}

/-- What an action gives from a state, and the state after it. -/
def on (a : Action σ χ α) (s : σ) : Except χ α × σ := a.run.run s

/-- Actions that give the same from every state are equal. -/
theorem ext {a b : Action σ χ α} (h : ∀ s, a.on s = b.on s) : a = b := by
  apply ExceptT.ext
  funext s
  exact h s

@[simp] theorem on_pure (x : α) (s : σ) : (pure x : Action σ χ α).on s = (.ok x, s) := rfl

@[simp] theorem on_throw (e : χ) (s : σ) : (throw e : Action σ χ α).on s = (.error e, s) := rfl

@[simp] theorem on_ofExcept (r : Except χ α) (s : σ) :
    (MonadExcept.ofExcept r : Action σ χ α).on s = (r, s) := by
  cases r <;> rfl

/-- The second action starts from the state after the first, if that one succeeds. -/
theorem on_bind (a : Action σ χ α) (f : α → Action σ χ β) (s : σ) :
    (a >>= f).on s = match a.on s with
      | (.error e, s') => (.error e, s')
      | (.ok x, s') => (f x).on s' := by
  show ((a >>= f : ExceptT χ (StateM σ) β).run).run s = _
  rw [ExceptT.run_bind]
  show (match (a.run.run s).1 with
    | .ok x => (f x).run
    | .error e => pure (.error e) : StateM σ (Except χ β)) (a.run.run s).2 = _
  unfold on
  rcases a.run.run s with ⟨_ | x, s'⟩ <;> rfl

/-- What the second action gives after a first one that succeeds. -/
theorem fst_on_bind {a : Action σ χ α} {s : σ} {x : α} (h : (a.on s).1 = .ok x)
    (f : α → Action σ χ β) : ((a >>= f).on s).1 = ((f x).on (a.on s).2).1 := by
  rw [on_bind]
  generalize a.on s = r at h ⊢
  obtain ⟨_, s'⟩ := r
  cases h
  rfl

theorem on_mapError (f : χ → ψ) (a : Action σ χ α) (s : σ) :
    (a.mapError f).on s = ((a.on s).1.mapError f, (a.on s).2) := rfl

/-- The error of two actions, one after the other, is changed in each. -/
theorem mapError_bind (f : χ → ψ) (a : Action σ χ α) (g : α → Action σ χ β) :
    (a >>= g).mapError f = a.mapError f >>= fun x => (g x).mapError f := by
  apply ext
  intro s
  rw [on_mapError, on_bind, on_bind, on_mapError]
  rcases a.on s with ⟨_ | x, s'⟩ <;> rfl

@[simp] theorem mapError_pure (f : χ → ψ) (x : α) :
    (pure x : Action σ χ α).mapError f = pure x := rfl

theorem on_map (f : α → β) (a : Action σ χ α) (s : σ) :
    (f <$> a).on s = ((a.on s).1.map f, (a.on s).2) := by
  rw [← bind_pure_comp, on_bind]
  rcases a.on s with ⟨_ | x, s'⟩ <;> rfl

end Action

end TextTemplate
