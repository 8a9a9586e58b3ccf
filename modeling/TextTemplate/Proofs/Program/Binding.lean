import TextTemplate.Proofs.Program.Entry

/-!
# Blocks that bind what they mention

A run of a block can fail in two ways: one of its statements fails, or a fragment mentions a name
that has no value. The second needs a name that is mentioned but not bound.

- `isSome_get?_of_runFrom`: after the statements of a block those names have values that they bind.
- `runFrom_ne_unbound`: the statements themselves fail only where one of them does.
- `exists_gather`: fragments make a tree if all names in them have values.
- `execute_ne_unbound`: a block that binds what it mentions never fails for the sake of a name.
-/

namespace TextTemplate

namespace Env

/-- A name has a value after another one has been given a value if it had one or is that name. -/
theorem isSome_get?_bind (env : Env) (id other : Ident) (value : Tree) :
    ((env.bind id value).get? other).isSome ↔ other = id ∨ (env.get? other).isSome := by
  by_cases h : id = other
  · subst h
    simp
  · rw [get?_bind_of_ne env value h]
    exact (or_iff_right (Ne.symm h)).symm

/-- Fragments make a tree if all names in them have values. -/
theorem exists_gather {χ : Type} (env : Env) (fragments : List Fragment)
    (h : ∀ id ∈ fragments.filterMap Fragment.reference?, (env.get? id).isSome) :
    ∃ tree, (env.gather fragments : Except (ExecError χ) Tree) = .ok tree := by
  have hparts : ∃ parts, fragments.mapM env.part? = some parts := by
    induction fragments with
    | nil => exact ⟨[], rfl⟩
    | cons f rest ih =>
      cases f with
      | text s =>
        obtain ⟨parts, hparts⟩ := ih h
        refine ⟨.literal s :: parts, ?_⟩
        rw [List.mapM_cons, hparts]
        rfl
      | ref id =>
        obtain ⟨hid, hrest⟩ := List.forall_mem_cons.1 h
        obtain ⟨parts, hparts⟩ := ih hrest
        obtain ⟨v, hv⟩ := Option.isSome_iff_exists.1 hid
        refine ⟨.value v :: parts, ?_⟩
        rw [List.mapM_cons, hparts, part?, hv]
        rfl
  obtain ⟨parts, hparts⟩ := hparts
  exact ⟨_, gather_of_parts hparts⟩

end Env

namespace Evaluator

variable {σ ε χ : Type}

/-- Statements fail only where one of them does. -/
theorem runFrom_ne_unbound (ev : Evaluator σ ε χ) (statements : List (Statement ε)) (index : Nat)
    (env : Env) (s s' : σ) (id : Ident) :
    (ev.runFrom index env statements).on s ≠ (.error (.unbound id), s') := by
  induction statements generalizing index env s with
  | nil =>
    intro h
    cases h
  | cons st rest ih =>
    cases st with
    | bind name e =>
      rw [runFrom_bind, Action.on_bind, Action.on_mapError]
      rcases (ev.eval e env).on s with ⟨_ | v, t⟩
      · intro h
        cases h
      · exact ih (index + 1) (env.bind name v) t
    | effect e =>
      rw [runFrom_effect, Action.on_bind, Action.on_mapError]
      rcases (ev.exec e env).on s with ⟨_ | v, t⟩
      · intro h
        cases h
      · exact ih (index + 1) env t

/-- After statements have run, those names have values that they bind or that had one before. -/
theorem isSome_get?_of_runFrom (ev : Evaluator σ ε χ) {statements : List (Statement ε)}
    {index : Nat} {env env' : Env} {s s' : σ}
    (h : (ev.runFrom index env statements).on s = (.ok env', s')) (id : Ident) :
    (env'.get? id).isSome ↔
      id ∈ statements.filterMap Statement.binding? ∨ (env.get? id).isSome := by
  induction statements generalizing index env s with
  | nil =>
    obtain ⟨rfl, -⟩ : env = env' ∧ s = s' := by simpa [runFrom] using h
    simp
  | cons st rest ih =>
    cases st with
    | bind name e =>
      rw [runFrom_bind, Action.on_bind, Action.on_mapError] at h
      generalize (ev.eval e env).on s = r at h
      rcases r with ⟨_ | v, t⟩
      · cases h
      · rw [ih h, Env.isSome_get?_bind, ← or_assoc]
        refine or_congr_left ?_
        show _ ↔ id ∈ name :: rest.filterMap Statement.binding?
        rw [List.mem_cons, or_comm]
    | effect e =>
      rw [runFrom_effect, Action.on_bind, Action.on_mapError] at h
      generalize (ev.exec e env).on s = r at h
      rcases r with ⟨_ | v, t⟩
      · cases h
      · exact ih h

end Evaluator

/-- **A block that binds what it mentions** never fails for the sake of a name, whatever its
expressions do. -/
theorem execute_ne_unbound {σ ε χ : Type} (ev : Evaluator σ ε χ) {b : Block ε}
    (h : ∀ id ∈ b.references, id ∈ b.bindings) (s s' : σ) (id : Ident) :
    (execute ev b).on s ≠ (.error (.unbound id), s') := by
  rw [execute, Action.on_bind]
  cases hrun : (ev.runFrom 0 .empty b.statements).on s with
  | mk result t =>
    cases result with
    | error e =>
      intro he
      cases he
      exact ev.runFrom_ne_unbound _ _ _ _ _ _ hrun
    | ok env =>
      have hvalues : ∀ id ∈ b.references, (env.get? id).isSome := by
        intro id hid
        exact (ev.isSome_get?_of_runFrom hrun id).2 (.inl (h id hid))
      obtain ⟨tree, htree⟩ := env.exists_gather (χ := χ) b.fragments hvalues
      show (MonadExcept.ofExcept (env.gather b.fragments) : Action σ (ExecError χ) Tree).on t ≠ _
      rw [htree, Action.on_ofExcept]
      intro h
      cases h

end TextTemplate
