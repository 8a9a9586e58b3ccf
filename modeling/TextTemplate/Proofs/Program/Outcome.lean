import Mathlib.Data.Finset.Card
import TextTemplate.Proofs.Program.Binding
import TextTemplate.Proofs.Program.Except

/-!
# How a program ends

Any program may be run, also one that binds a name twice, mentions a name that it does not bind, or
binds one that it does not mention. What it gives is decided by the calls of the evaluator, one
after the other, and after these by the last value of every name.

- `IsLast`, `Env.ofBindings`, `Env.Shows`: names that have been given values, in order, and what an
  environment lets be seen of them.
- `Evaluator.Ran`, `Evaluator.Fails`: statements whose calls succeed one after the other, and a
  statement whose call fails.
- `Evaluator.ran_or_fails`: the statements of a program do one or the other.
- `Env.gather_eq_ok_iff`, `Env.gather_eq_error_iff`: fragments are looked up after all statements.
- `on_execute_eq_eval_iff`, `on_execute_eq_iff_gather`: the two ways in which a program ends.
- `on_execute_iff`: the main statement.
-/

namespace TextTemplate

/-! ## Names with values -/

/-- Names were given values, in order; this is the last one for the name. -/
def IsLast (bound : List (Ident × Tree)) (id : Ident) (v : Tree) : Prop :=
  ∃ front back, bound = front ++ (id, v) :: back ∧ id ∉ back.map Prod.fst

/-- A name that has just been given a value has no other one. -/
theorem isLast_append_self (bound : List (Ident × Tree)) (id : Ident) (v w : Tree) :
    IsLast (bound ++ [(id, v)]) id w ↔ v = w := by
  constructor
  · rintro ⟨front, back, hbound, hback⟩
    rcases List.eq_nil_or_concat back with rfl | ⟨back, last, rfl⟩
    · have hlast := (List.append_inj' hbound rfl).2
      simpa using hlast
    · have hlast : (id, v) = last := by
        rw [List.concat_eq_append, ← List.cons_append, ← List.append_assoc] at hbound
        simpa using (List.append_inj' hbound rfl).2
      subst hlast
      exact absurd (by simp) hback
  · rintro rfl
    exact ⟨bound, [], rfl, List.not_mem_nil⟩

/-- Another name keeps its value. -/
theorem isLast_append_of_ne (bound : List (Ident × Tree)) {id other : Ident} (v w : Tree)
    (h : id ≠ other) : IsLast (bound ++ [(id, v)]) other w ↔ IsLast bound other w := by
  constructor
  · rintro ⟨front, back, hbound, hback⟩
    rcases List.eq_nil_or_concat back with rfl | ⟨back, last, rfl⟩
    · have hlast := (List.append_inj' hbound rfl).2
      simp only [List.cons.injEq, Prod.mk.injEq] at hlast
      exact absurd hlast.1.1 h
    · rw [List.concat_eq_append, ← List.cons_append, ← List.append_assoc] at hbound
      refine ⟨front, back, (List.append_inj' hbound rfl).1, fun hmem => hback ?_⟩
      simp [hmem]
  · rintro ⟨front, back, rfl, hback⟩
    refine ⟨front, back ++ [(id, v)], by simp, ?_⟩
    rw [List.map_append, List.mem_append, not_or]
    exact ⟨hback, by simpa using Ne.symm h⟩

namespace Env

/-- The environment in which names have been given values, in order. -/
def ofBindings (bound : List (Ident × Tree)) : Env :=
  bound.foldl (fun env entry => env.bind entry.1 entry.2) .empty

@[simp] theorem ofBindings_nil : ofBindings [] = .empty := rfl

@[simp] theorem ofBindings_append_singleton (bound : List (Ident × Tree)) (id : Ident) (v : Tree) :
    ofBindings (bound ++ [(id, v)]) = (ofBindings bound).bind id v := by
  simp [ofBindings]

/-- What an environment lets be seen of the names that have been given values, in order: a name has
its last value, or none if it was not given one, and a name that was given several counts once. -/
structure Shows (env : Env) (bound : List (Ident × Tree)) : Prop where
  get?_eq_some_iff : ∀ id v, env.get? id = some v ↔ IsLast bound id v
  get?_eq_none_iff : ∀ id, env.get? id = none ↔ id ∉ bound.map Prod.fst
  size_eq : env.size = (bound.map Prod.fst).toFinset.card
  isEmpty_iff : env.isEmpty = true ↔ bound = []

/-- What is left of a list without repetitions has as many elements as the list has different
ones. -/
theorem length_eraseDups {α : Type} [DecidableEq α] (l : List α) :
    l.eraseDups.length = l.toFinset.card := by
  -- The first element is taken out of the rest, which is shorter then but no tail of the list.
  induction hn : l.length using Nat.strong_induction_on generalizing l with
  | _ n ih =>
    cases l with
    | nil => rfl
    | cons a l =>
      have hshorter : (l.filter fun b => !b == a).length < n := by
        have := List.length_filter_le (fun b => !b == a) l
        rw [List.length_cons] at hn
        omega
      have hrest : (a :: l).toFinset = insert a (l.filter fun b => !b == a).toFinset := by
        ext b
        by_cases hb : b = a <;> simp [hb]
      rw [List.eraseDups_cons, List.length_cons, ih _ hshorter _ rfl, hrest,
        Finset.card_insert_of_notMem (by simp)]

theorem entries_ofBindings (bound : List (Ident × Tree)) :
    (ofBindings bound).entries = bound.reverse := by
  induction bound using List.reverseRecOn with
  | nil => rfl
  | append_singleton bound entry ih =>
    rw [ofBindings_append_singleton, bind, ih, List.reverse_append]
    rfl

theorem get?_ofBindings_eq_some_iff (bound : List (Ident × Tree)) (id : Ident) (v : Tree) :
    (ofBindings bound).get? id = some v ↔ IsLast bound id v := by
  induction bound using List.reverseRecOn with
  | nil =>
    constructor
    · exact nofun
    · rintro ⟨front, back, hbound, -⟩
      exact absurd hbound (by simp)
  | append_singleton bound entry ih =>
    obtain ⟨last, w⟩ := entry
    rw [ofBindings_append_singleton]
    -- Only the name that was bound last has a new value.
    by_cases h : last = id
    · subst h
      rw [get?_bind_self, isLast_append_self, Option.some.injEq]
    · rw [get?_bind_of_ne _ _ h, isLast_append_of_ne bound _ _ h, ih]

theorem isSome_get?_ofBindings (bound : List (Ident × Tree)) (id : Ident) :
    ((ofBindings bound).get? id).isSome ↔ id ∈ bound.map Prod.fst := by
  induction bound using List.reverseRecOn with
  | nil => simp
  | append_singleton bound entry ih =>
    obtain ⟨last, w⟩ := entry
    rw [ofBindings_append_singleton, isSome_get?_bind, ih, List.map_append, List.mem_append,
      or_comm, List.map_singleton, List.mem_singleton]

theorem get?_ofBindings_eq_none_iff (bound : List (Ident × Tree)) (id : Ident) :
    (ofBindings bound).get? id = none ↔ id ∉ bound.map Prod.fst := by
  rw [← isSome_get?_ofBindings, Option.not_isSome_iff_eq_none]

/-- An environment lets be seen what its names have been given. -/
theorem shows_ofBindings (bound : List (Ident × Tree)) : (ofBindings bound).Shows bound where
  get?_eq_some_iff := get?_ofBindings_eq_some_iff bound
  get?_eq_none_iff := get?_ofBindings_eq_none_iff bound
  size_eq := by
    rw [size, length_eraseDups, entries_ofBindings, List.map_reverse, List.toFinset_reverse]
  isEmpty_iff := by
    rw [isEmpty, entries_ofBindings, List.isEmpty_reverse, List.isEmpty_iff]

end Env

/-! ## Statements -/

namespace Evaluator

variable {σ ε χ : Type}

/-- Statements that are run from a state one at a time, in order. Every call succeeds; it starts
from the state that the one before has left, and sees the names that have been bound before it. -/
inductive Ran (ev : Evaluator σ ε χ) :
    (bound : List (Ident × Tree)) → (s : σ) → List (Statement ε) →
      (bound' : List (Ident × Tree)) → (s' : σ) → Prop
  | nil (bound : List (Ident × Tree)) (s : σ) : Ran ev bound s [] bound s
  | bind {bound bound' : List (Ident × Tree)} {s t s' : σ} {id : Ident} {e : ε} {v : Tree}
    {rest : List (Statement ε)} (hcall : (ev.eval e (.ofBindings bound)).on s = (.ok v, t))
    (hrest : Ran ev (bound ++ [(id, v)]) t rest bound' s') :
    Ran ev bound s (.bind id e :: rest) bound' s'
  | effect {bound bound' : List (Ident × Tree)} {s t s' : σ} {e : ε}
    {rest : List (Statement ε)} (hcall : (ev.exec e (.ofBindings bound)).on s = (.ok (), t))
    (hrest : Ran ev bound t rest bound' s') : Ran ev bound s (.effect e :: rest) bound' s'

/-- The call of a statement fails with an error, and leaves a state. -/
def Fails (ev : Evaluator σ ε χ) (bound : List (Ident × Tree)) (s : σ) :
    Statement ε → χ → σ → Prop
  | .bind _ e, x, t => (ev.eval e (.ofBindings bound)).on s = (.error x, t)
  | .effect e, x, t => (ev.exec e (.ofBindings bound)).on s = (.error x, t)

section

variable {ev : Evaluator σ ε χ} {bound bound' : List (Ident × Tree)} {s t u : σ}
  {statements front later : List (Statement ε)} {st : Statement ε} {x : χ}

/-- Statements that succeed bind their names, in order. -/
theorem Ran.names (h : ev.Ran bound s statements bound' t) :
    bound'.map Prod.fst = bound.map Prod.fst ++ statements.filterMap Statement.binding? := by
  induction h with
  | nil => simp
  | bind _ _ ih =>
    rw [ih, List.map_append, List.append_assoc]
    rfl
  | effect _ _ ih => rw [ih, List.filterMap_cons_none rfl]

/-- The statements of a program succeed one after the other, or there is a first one that fails. -/
theorem ran_or_fails (ev : Evaluator σ ε χ) (bound : List (Ident × Tree)) (s : σ)
    (statements : List (Statement ε)) :
    (∃ bound' t, ev.Ran bound s statements bound' t) ∨
      ∃ front st later bound' u x t, statements = front ++ st :: later ∧
        ev.Ran bound s front bound' u ∧ ev.Fails bound' u st x t := by
  induction statements generalizing bound s with
  | nil => exact .inl ⟨bound, s, .nil bound s⟩
  | cons st rest ih =>
    cases st with
    | bind id e =>
      -- A call that fails is the first to fail, with nothing before it.
      rcases hcall : (ev.eval e (.ofBindings bound)).on s with ⟨x | v, t⟩
      · exact .inr ⟨[], _, rest, bound, s, x, t, rfl, .nil bound s, hcall⟩
      · rcases ih (bound ++ [(id, v)]) t with ⟨bound', t', h⟩ |
          ⟨front, st, later, bound', u, x, t', rfl, h, hfails⟩
        · exact .inl ⟨bound', t', .bind hcall h⟩
        · exact .inr ⟨_ :: front, st, later, bound', u, x, t', rfl, .bind hcall h, hfails⟩
    | effect e =>
      rcases hcall : (ev.exec e (.ofBindings bound)).on s with ⟨x | ⟨⟩, t⟩
      · exact .inr ⟨[], _, rest, bound, s, x, t, rfl, .nil bound s, hcall⟩
      · rcases ih bound t with ⟨bound', t', h⟩ |
          ⟨front, st, later, bound', u, x, t', rfl, h, hfails⟩
        · exact .inl ⟨bound', t', .effect hcall h⟩
        · exact .inr ⟨_ :: front, st, later, bound', u, x, t', rfl, .effect hcall h, hfails⟩

/-- Statements that succeed are passed over, and the run goes on behind them. -/
theorem Ran.runFrom_append (h : ev.Ran bound s front bound' t) (index : Nat)
    (later : List (Statement ε)) :
    (ev.runFrom index (.ofBindings bound) (front ++ later)).on s =
      (ev.runFrom (index + front.length) (.ofBindings bound') later).on t := by
  induction h generalizing index with
  | nil => rfl
  | @bind _ _ _ _ _ _ _ _ rest hcall _ ih =>
    have hnext := ih (index + 1)
    rw [Env.ofBindings_append_singleton] at hnext
    have hindex : index + (rest.length + 1) = index + 1 + rest.length := by omega
    rw [List.cons_append, runFrom_bind, Action.on_bind, Action.on_mapError, hcall,
      List.length_cons, hindex]
    exact hnext
  | @effect _ _ _ _ _ _ rest hcall _ ih =>
    have hindex : index + (rest.length + 1) = index + 1 + rest.length := by omega
    rw [List.cons_append, runFrom_effect, Action.on_bind, Action.on_mapError, hcall,
      List.length_cons, hindex]
    exact ih (index + 1)

/-- A statement that fails ends the run. -/
theorem Fails.runFrom_cons (h : ev.Fails bound s st x t) (index : Nat)
    (later : List (Statement ε)) :
    (ev.runFrom index (.ofBindings bound) (st :: later)).on s = (.error (.eval index x), t) := by
  cases st with
  | bind id e =>
    have hcall : (ev.eval e (.ofBindings bound)).on s = (.error x, t) := h
    rw [runFrom_bind, Action.on_bind, Action.on_mapError, hcall]
    rfl
  | effect e =>
    have hcall : (ev.exec e (.ofBindings bound)).on s = (.error x, t) := h
    rw [runFrom_effect, Action.on_bind, Action.on_mapError, hcall]
    rfl

end

end Evaluator

/-! ## Fragments -/

/-- The item of a tree that a fragment is made, after names have been given values. -/
inductive Fragment.Item (bound : List (Ident × Tree)) : Fragment → Tree → Prop
  | text (s : String) : Item bound (.text s) (.text s)
  | ref {id : Ident} {v : Tree} (h : IsLast bound id v) : Item bound (.ref id) (.shared v)

/-- A fragment is made an item if the name in it, if there is one, has been given a value. -/
theorem Fragment.exists_item_iff {bound : List (Ident × Tree)} (f : Fragment) :
    (∃ tree, f.Item bound tree) ↔ ∀ id, f.reference? = some id → id ∈ bound.map Prod.fst := by
  cases f with
  | text s => exact ⟨fun _ => nofun, fun _ => ⟨_, .text s⟩⟩
  | ref id =>
    constructor
    · rintro ⟨_, _ | h⟩ _ ⟨⟩
      obtain ⟨front, back, rfl, -⟩ := h
      simp
    · intro h
      obtain ⟨v, hv⟩ := Option.isSome_iff_exists.1
        ((Env.isSome_get?_ofBindings bound id).2 (h id rfl))
      exact ⟨_, .ref ((Env.get?_ofBindings_eq_some_iff bound id v).1 hv)⟩

/-- Fragments are made items if all names in them have been given values. -/
theorem Fragment.forall_exists_item_iff {bound : List (Ident × Tree)} (fragments : List Fragment) :
    (∀ f ∈ fragments, ∃ tree, f.Item bound tree) ↔
      ∀ id ∈ fragments.filterMap Fragment.reference?, id ∈ bound.map Prod.fst := by
  simp only [exists_item_iff, List.mem_filterMap]
  constructor
  · rintro h id ⟨f, hf, hid⟩
    exact h f hf id hid
  · intro h f hf id hid
    exact h id ⟨f, hf, hid⟩

namespace Env

variable {χ : Type} {bound : List (Ident × Tree)} {fragments : List Fragment}

theorem item_eq_ok_iff {f : Fragment} {tree : Tree} :
    ((ofBindings bound).item f : Except (ExecError χ) Tree) = .ok tree ↔
      f.Item bound tree := by
  cases f with
  | text s =>
    constructor
    · intro h
      cases h
      exact .text s
    · rintro ⟨⟩
      rfl
  | ref id =>
    rw [item]
    cases hv : (ofBindings bound).get? id with
    | none =>
      constructor
      · intro h
        cases h
      · rintro (_ | h)
        rw [(get?_ofBindings_eq_some_iff bound id _).2 h] at hv
        cases hv
    | some v =>
      constructor
      · intro h
        cases h
        exact .ref ((get?_ofBindings_eq_some_iff bound id v).1 hv)
      · rintro (_ | h)
        rw [(get?_ofBindings_eq_some_iff bound id _).2 h] at hv
        cases hv
        rfl

theorem item_eq_error_iff {f : Fragment} {x : ExecError χ} :
    (ofBindings bound).item f = .error x ↔
      ∃ id, f = .ref id ∧ id ∉ bound.map Prod.fst ∧ x = .unbound id := by
  cases f with
  | text s =>
    constructor
    · intro h
      cases h
    · rintro ⟨_, ⟨⟩, -⟩
  | ref id =>
    rw [item]
    cases hv : (ofBindings bound).get? id with
    | none =>
      have hid := (get?_ofBindings_eq_none_iff bound id).1 hv
      constructor
      · intro h
        cases h
        exact ⟨id, rfl, hid, rfl⟩
      · rintro ⟨_, ⟨⟩, -, rfl⟩
        rfl
    | some v =>
      constructor
      · intro h
        cases h
      · rintro ⟨_, ⟨⟩, hid, -⟩
        rw [(get?_ofBindings_eq_none_iff bound id).2 hid] at hv
        cases hv

/-- The fragments make a tree of their items. -/
theorem gather_eq_ok_iff {tree : Tree} :
    ((ofBindings bound).gather fragments : Except (ExecError χ) Tree) = .ok tree ↔
      ∃ items, tree = .list items ∧ List.Forall₂ (Fragment.Item bound) fragments items := by
  have hitems (items : List Tree) :
      (fragments.mapM (ofBindings bound).item : Except (ExecError χ) (List Tree)) = .ok items ↔
        List.Forall₂ (Fragment.Item bound) fragments items := by
    rw [mapM_eq_ok_iff]
    simp only [item_eq_ok_iff]
  rw [gather]
  constructor
  · intro h
    cases hmap : (fragments.mapM (ofBindings bound).item : Except (ExecError χ) (List Tree)) with
    | error x =>
      rw [hmap] at h
      cases h
    | ok items =>
      rw [hmap] at h
      cases h
      exact ⟨items, rfl, (hitems items).1 hmap⟩
  · rintro ⟨items, rfl, h⟩
    rw [(hitems items).2 h]
    rfl

/-- The fragments make a tree exactly if all names in them have been given values. -/
theorem exists_gather_iff :
    (∃ tree, ((ofBindings bound).gather fragments : Except (ExecError χ) Tree) = .ok tree) ↔
      ∀ id ∈ fragments.filterMap Fragment.reference?, id ∈ bound.map Prod.fst := by
  constructor
  · rintro ⟨tree, h⟩
    obtain ⟨items, -, hitems⟩ := gather_eq_ok_iff.1 h
    have hboth := hitems.imp fun f item hitem =>
      (⟨⟨item, hitem⟩, hitem⟩ : (∃ tree, f.Item bound tree) ∧ f.Item bound item)
    exact (Fragment.forall_exists_item_iff fragments).1 ((List.forall₂_and_left _ _).1 hboth).1
  · intro h
    exact exists_gather _ fragments fun id hid => (isSome_get?_ofBindings bound id).2 (h id hid)

/-- The first name without a value is the error. -/
theorem gather_eq_error_iff {x : ExecError χ} :
    (ofBindings bound).gather fragments = .error x ↔
      ∃ front id back, fragments = front ++ .ref id :: back ∧
        (∀ other ∈ front.filterMap Fragment.reference?, other ∈ bound.map Prod.fst) ∧
        id ∉ bound.map Prod.fst ∧ x = .unbound id := by
  have hmap : (ofBindings bound).gather fragments = .error x ↔
      (fragments.mapM (ofBindings bound).item : Except (ExecError χ) (List Tree)) = .error x := by
    rw [gather]
    cases fragments.mapM (ofBindings bound).item with
    | error x' =>
      constructor
      · intro h
        cases h
        rfl
      · intro h
        cases h
        rfl
    | ok items =>
      constructor
      · intro h
        cases h
      · intro h
        cases h
  have hread (front : List Fragment) :
      (∀ f ∈ front, ∃ tree, ((ofBindings bound).item f : Except (ExecError χ) Tree) = .ok tree) ↔
        ∀ other ∈ front.filterMap Fragment.reference?, other ∈ bound.map Prod.fst := by
    simp only [item_eq_ok_iff]
    exact Fragment.forall_exists_item_iff front
  rw [hmap, mapM_eq_error_iff]
  constructor
  · rintro ⟨front, f, back, rfl, hfront, hf⟩
    obtain ⟨id, rfl, hid, rfl⟩ := item_eq_error_iff.1 hf
    exact ⟨front, id, back, rfl, (hread front).1 hfront, hid, rfl⟩
  · rintro ⟨front, id, back, rfl, hfront, hid, rfl⟩
    exact ⟨front, _, back, rfl, (hread front).2 hfront, item_eq_error_iff.2 ⟨id, rfl, hid, rfl⟩⟩

end Env

/-! ## Programs -/

section

variable {σ ε χ : Type} {ev : Evaluator σ ε χ} {b : Block ε} {s t u : σ}
  {bound : List (Ident × Tree)}

/-- If all statements succeed, the fragments decide. -/
theorem Evaluator.Ran.on_execute (h : ev.Ran [] s b.statements bound t) :
    (execute ev b).on s = ((Env.ofBindings bound).gather b.fragments, t) := by
  have hrun := h.runFrom_append 0 []
  rw [List.append_nil] at hrun
  rw [execute, Action.on_bind]
  rw [Env.ofBindings_nil] at hrun
  rw [hrun]
  exact Action.on_ofExcept _ t

/-- If a statement fails, nothing after it is looked at. -/
theorem Evaluator.Fails.on_execute {front later : List (Statement ε)} {st : Statement ε} {x : χ}
    (hfails : ev.Fails bound u st x t) (h : ev.Ran [] s front bound u)
    (fragments : List Fragment) :
    (execute ev ⟨front ++ st :: later, fragments⟩).on s = (.error (.eval front.length x), t) := by
  have hrun := h.runFrom_append 0 (st :: later)
  rw [hfails.runFrom_cons, Nat.zero_add] at hrun
  rw [execute, Action.on_bind]
  rw [Env.ofBindings_nil] at hrun
  rw [hrun]

/-- A program ends with the error of a statement exactly if that is the first one that fails. -/
theorem on_execute_eq_eval_iff {i : Nat} {x : χ} :
    (execute ev b).on s = (.error (.eval i x), t) ↔
      ∃ front st later bound u, b.statements = front ++ st :: later ∧ front.length = i ∧
        ev.Ran [] s front bound u ∧ ev.Fails bound u st x t := by
  constructor
  · intro h
    rcases ev.ran_or_fails [] s b.statements with ⟨bound, t', hran⟩ |
      ⟨front, st, later, bound, u, x', t', hstatements, hran, hfails⟩
    · -- The fragments report names only, never a call.
      rw [hran.on_execute] at h
      have hgather := (Prod.mk.inj h).1
      obtain ⟨-, id, -, -, -, -, hx⟩ := Env.gather_eq_error_iff.1 hgather
      cases hx
    · obtain ⟨statements, fragments⟩ := b
      obtain rfl : statements = front ++ st :: later := hstatements
      rw [hfails.on_execute hran] at h
      cases h
      exact ⟨front, st, later, bound, u, rfl, rfl, hran, hfails⟩
  · rintro ⟨front, st, later, bound, u, hstatements, rfl, hran, hfails⟩
    obtain ⟨statements, fragments⟩ := b
    obtain rfl : statements = front ++ st :: later := hstatements
    exact hfails.on_execute hran fragments

/-- A program ends without the error of a statement exactly if all of them succeed. -/
theorem on_execute_eq_iff_gather {r : Except (ExecError χ) Tree}
    (hr : ∀ i x, r ≠ .error (.eval i x)) :
    (execute ev b).on s = (r, t) ↔ ∃ bound, ev.Ran [] s b.statements bound t ∧
      (Env.ofBindings bound).gather b.fragments = r := by
  constructor
  · intro h
    rcases ev.ran_or_fails [] s b.statements with ⟨bound, t', hran⟩ |
      ⟨front, st, later, bound, u, x, t', hstatements, hran, hfails⟩
    · rw [hran.on_execute] at h
      obtain ⟨hgather, rfl⟩ := Prod.mk.inj h
      exact ⟨bound, hran, hgather⟩
    · have heval := on_execute_eq_eval_iff.2
        ⟨front, st, later, bound, u, hstatements, rfl, hran, hfails⟩
      rw [h] at heval
      exact absurd (Prod.mk.inj heval).1 (hr _ _)
  · rintro ⟨bound, hran, rfl⟩
    exact hran.on_execute

end

/-- **What a program gives.** The statements are run one at a time, in order, and every one of them
sees the last values of the names that have been bound before it.
* The first call that fails decides, whatever statements and fragments come after it.
* If all calls succeed and every name that is mentioned is bound somewhere, the program gives its
fragments in order, each name with its last value.
* Otherwise the first name that is mentioned and bound nowhere is reported, after all statements. -/
theorem on_execute_iff {σ ε χ : Type} (ev : Evaluator σ ε χ) (b : Block ε) (s : σ) :
    (∀ bound, (Env.ofBindings bound).Shows bound) ∧
    (∀ i x t, (execute ev b).on s = (.error (.eval i x), t) ↔
      ∃ front st later bound u, b.statements = front ++ st :: later ∧ front.length = i ∧
        ev.Ran [] s front bound u ∧ ev.Fails bound u st x t ∧
        ∀ others fragments,
          (execute ev ⟨front ++ st :: others, fragments⟩).on s = (.error (.eval i x), t)) ∧
    (∀ tree t, (execute ev b).on s = (.ok tree, t) ↔
      ∃ bound, ev.Ran [] s b.statements bound t ∧
        ∃ items, tree = .list items ∧ List.Forall₂ (Fragment.Item bound) b.fragments items) ∧
    ((∃ tree t, (execute ev b).on s = (.ok tree, t)) ↔
      (∃ bound t, ev.Ran [] s b.statements bound t) ∧ ∀ id ∈ b.references, id ∈ b.bindings) ∧
    (∀ id t, (execute ev b).on s = (.error (.unbound id), t) ↔
      (∃ bound, ev.Ran [] s b.statements bound t) ∧
        ∃ front back, b.fragments = front ++ .ref id :: back ∧ id ∉ b.bindings ∧
          ∀ other ∈ front.filterMap Fragment.reference?, other ∈ b.bindings) := by
  have hnames {bound : List (Ident × Tree)} {t : σ} (h : ev.Ran [] s b.statements bound t) :
      bound.map Prod.fst = b.bindings := h.names
  refine ⟨Env.shows_ofBindings, fun i x t => ?_, fun tree t => ?_, ?_, fun id t => ?_⟩
  case refine_1 =>
    rw [on_execute_eq_eval_iff]
    constructor
    · rintro ⟨front, st, later, bound, u, hstatements, rfl, hran, hfails⟩
      exact ⟨front, st, later, bound, u, hstatements, rfl, hran, hfails,
        fun others fragments => hfails.on_execute hran fragments⟩
    · rintro ⟨front, st, later, bound, u, hstatements, hlength, hran, hfails, -⟩
      exact ⟨front, st, later, bound, u, hstatements, hlength, hran, hfails⟩
  case refine_2 =>
    rw [on_execute_eq_iff_gather nofun]
    simp only [Env.gather_eq_ok_iff]
  case refine_3 =>
    constructor
    · rintro ⟨tree, t, h⟩
      obtain ⟨bound, hran, hgather⟩ := (on_execute_eq_iff_gather nofun).1 h
      refine ⟨⟨bound, t, hran⟩, ?_⟩
      rw [← hnames hran]
      exact Env.exists_gather_iff.1 ⟨tree, hgather⟩
    · rintro ⟨⟨bound, t, hran⟩, hreferences⟩
      rw [← hnames hran] at hreferences
      obtain ⟨tree, hgather⟩ := Env.exists_gather_iff.2 hreferences
      exact ⟨tree, t, (on_execute_eq_iff_gather nofun).2 ⟨bound, hran, hgather⟩⟩
  case refine_4 =>
    rw [on_execute_eq_iff_gather nofun]
    constructor
    · rintro ⟨bound, hran, hgather⟩
      obtain ⟨front, _, back, hfragments, hfront, hid, ⟨⟩⟩ := Env.gather_eq_error_iff.1 hgather
      rw [hnames hran] at hfront hid
      exact ⟨⟨bound, hran⟩, front, back, hfragments, hid, hfront⟩
    · rintro ⟨⟨bound, hran⟩, front, back, hfragments, hid, hfront⟩
      rw [← hnames hran] at hfront hid
      exact ⟨bound, hran, Env.gather_eq_error_iff.2 ⟨front, id, back, hfragments, hfront, hid, rfl⟩⟩

end TextTemplate
