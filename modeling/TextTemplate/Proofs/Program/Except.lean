import Mathlib.Data.List.Forall2

/-!
# Computations that may fail

- `bind_eq_ok_iff`, `exists_bind_iff`: one computation after another.
- `mapM_eq_ok_iff`, `mapM_eq_error_iff`: a computation for each element of a list.
-/

namespace TextTemplate

variable {ε α β : Type}

/-- There is an error exactly if there is no result. -/
theorem exists_error_iff_not (x : Except ε α) :
    (∃ e, x = .error e) ↔ ¬ ∃ a, x = .ok a := by
  cases x <;> simp

/-- One computation after another has a result if both have one. -/
theorem bind_eq_ok_iff {x : Except ε α} {f : α → Except ε β} {b : β} :
    x >>= f = .ok b ↔ ∃ a, x = .ok a ∧ f a = .ok b := by
  cases x with
  | error e =>
    constructor
    · exact nofun
    · rintro ⟨a, h, -⟩
      cases h
  | ok a =>
    constructor
    · exact fun h => ⟨a, rfl, h⟩
    · rintro ⟨a, ha, h⟩
      cases ha
      exact h

/-- One computation after another has some result exactly if each has one. -/
theorem exists_bind_iff (x : Except ε α) (f : α → Except ε β) :
    (∃ b, x >>= f = .ok b) ↔ ∃ a, x = .ok a ∧ ∃ b, f a = .ok b := by
  simp only [bind_eq_ok_iff]
  constructor
  · rintro ⟨b, a, ha, hb⟩
    exact ⟨a, ha, b, hb⟩
  · rintro ⟨a, ha, b, hb⟩
    exact ⟨b, a, ha, hb⟩

theorem exists_pure (a : α) : ∃ b, (pure a : Except ε α) = .ok b := ⟨a, rfl⟩

/-- A list is read if every element of it is. -/
theorem mapM_eq_ok_iff {f : α → Except ε β} {xs : List α} {ys : List β} :
    xs.mapM f = .ok ys ↔ List.Forall₂ (fun x y => f x = .ok y) xs ys := by
  induction xs generalizing ys with
  | nil =>
    constructor
    · intro h
      cases h
      exact .nil
    · rintro ⟨⟩
      rfl
  | cons x xs ih =>
    rw [List.mapM_cons]
    constructor
    · intro h
      obtain ⟨y, hx, h⟩ := bind_eq_ok_iff.1 h
      obtain ⟨ys, hxs, h⟩ := bind_eq_ok_iff.1 h
      cases h
      exact .cons hx (ih.1 hxs)
    · rintro (_ | ⟨hx, hxs⟩)
      rw [hx, ih.2 hxs]
      rfl

/-- Every element of a list that is read is. -/
theorem exists_of_mapM {f : α → Except ε β} {xs : List α} {ys : List β} (h : xs.mapM f = .ok ys) :
    ∀ x ∈ xs, ∃ y, f x = .ok y := by
  have hread := mapM_eq_ok_iff.1 h
  clear h
  induction hread with
  | nil => exact List.forall_mem_nil _
  | cons hx _ ih => exact List.forall_mem_cons.2 ⟨⟨_, hx⟩, ih⟩

/-- A list is read if it is known what every element is read as. -/
theorem mapM_eq_ok {f : α → Except ε β} {g : α → β} {xs : List α}
    (h : ∀ x ∈ xs, f x = .ok (g x)) : xs.mapM f = .ok (xs.map g) :=
  mapM_eq_ok_iff.2 (List.forall₂_map_right_iff.2 (List.forall₂_same.2 h))

/-- The first element of a list that cannot be read is the error. -/
theorem mapM_eq_error_iff {f : α → Except ε β} {xs : List α} {e : ε} :
    xs.mapM f = .error e ↔ ∃ front x back, xs = front ++ x :: back ∧
      (∀ y ∈ front, ∃ z, f y = .ok z) ∧ f x = .error e := by
  induction xs with
  | nil =>
    constructor
    · intro h
      cases h
    · rintro ⟨front, x, back, hxs, -⟩
      exact absurd hxs (by simp)
  | cons x xs ih =>
    rw [List.mapM_cons]
    cases hx : f x with
    | error e' =>
      constructor
      · intro h
        cases h
        exact ⟨[], x, xs, rfl, List.forall_mem_nil _, hx⟩
      · rintro ⟨_ | ⟨y, front⟩, x', back, heq, hfront, he⟩
        · cases heq
          obtain rfl : e' = e := Except.error.inj (hx.symm.trans he)
          rfl
        · cases heq
          obtain ⟨z, hz⟩ := hfront x List.mem_cons_self
          rw [hx] at hz
          cases hz
    | ok z =>
      have hbind : ((.ok z : Except ε β) >>= fun y => xs.mapM f >>= fun ys => pure (y :: ys)) =
          .error e ↔ xs.mapM f = .error e := by
        cases xs.mapM f with
        | error e' => exact Iff.rfl
        | ok ys => exact ⟨nofun, nofun⟩
      rw [hbind, ih]
      constructor
      · rintro ⟨front, x', back, rfl, hfront, he⟩
        exact ⟨x :: front, x', back, rfl, List.forall_mem_cons.2 ⟨⟨z, hx⟩, hfront⟩, he⟩
      · rintro ⟨_ | ⟨y, front⟩, x', back, heq, hfront, he⟩
        · cases heq
          rw [hx] at he
          cases he
        · cases heq
          exact ⟨front, x', back, rfl, (List.forall_mem_cons.1 hfront).2, he⟩

end TextTemplate
