import TextTemplate.Proofs.Program.Binding
import TextTemplate.Proofs.Program.Nesting

/-!
# Programs under other names

A program may have other names for its values, as long as different names stay different. A run of
it then gives the same tree, has the same effects, and fails in the same way.

- `Ident.restem`: a name with another stem; `Nested.rename`: an expression with other names.
- `Env.Agree`: environments in which names with the same number have the same value.
- `Nested.Formed`: programs of which all names have one stem, at every depth, and are bound.
- `execute_rename`: a program runs alike with either stem, if its expressions do.
- `alike_of_formed`: so do all programs of names with one stem, by induction on the nesting.
-/

namespace TextTemplate

/-! ## Names -/

namespace Ident

/-- The number of a name, if the name is made with the stem. -/
def number? (stem : String) (id : Ident) : Option Nat :=
  let n := Nat.ofDigitChars 10 (id.name.toList.drop stem.toList.length) 0
  if id = numbered stem n then some n else none

/-- The name with the same number and another stem. A name that is not made with the first stem
stays as it is. -/
def restem (p q : String) (id : Ident) : Ident :=
  match id.number? p with
  | some n => numbered q n
  | none => id

theorem number?_numbered (stem : String) (n : Nat) : (numbered stem n).number? stem = some n := by
  have hdigits : (numbered stem n).name.toList.drop stem.toList.length = Nat.toDigits 10 n := by
    rw [name_numbered, String.toList_append, List.drop_left, Nat.toString_eq_repr,
      Nat.toList_repr]
  have hnumber : Nat.ofDigitChars 10 (Nat.toDigits 10 n) 0 = n := by simp
  simp only [number?, hdigits, hnumber, if_pos]

@[simp] theorem restem_numbered (p q : String) (n : Nat) :
    (numbered p n).restem p q = numbered q n := by
  rw [restem, number?_numbered]

end Ident

namespace Fragment

/-- The fragment with another name. -/
def rename (f : Ident → Ident) : Fragment → Fragment
  | text s => text s
  | ref id => ref (f id)

end Fragment

namespace Nested

variable {α : Type}

mutual

/-- A nested expression with other names in its programs. -/
def rename (f : Ident → Ident) : Nested α → Nested α
  | atom a => atom a
  | block program => block (renameBlock f program)

/-- A program with other names, also in the programs inside of it. -/
def renameBlock (f : Ident → Ident) : Block (Nested α) → Block (Nested α)
  | ⟨statements, fragments⟩ => ⟨renameStatements f statements, fragments.map (Fragment.rename f)⟩

/-- Statements with other names. -/
def renameStatements (f : Ident → Ident) :
    List (Statement (Nested α)) → List (Statement (Nested α))
  | [] => []
  | s :: rest => renameStatement f s :: renameStatements f rest

/-- A statement with other names. -/
def renameStatement (f : Ident → Ident) : Statement (Nested α) → Statement (Nested α)
  | .bind id e => .bind (f id) (rename f e)
  | .effect e => .effect (rename f e)

end

variable (f : Ident → Ident)

theorem renameStatements_eq_map (statements : List (Statement (Nested α))) :
    renameStatements f statements = statements.map (renameStatement f) := by
  induction statements with
  | nil => rw [renameStatements, List.map_nil]
  | cons s rest ih => rw [renameStatements, List.map_cons, ih]

@[simp] theorem statements_renameBlock (b : Block (Nested α)) :
    (renameBlock f b).statements = b.statements.map (renameStatement f) := by
  cases b
  rw [renameBlock, renameStatements_eq_map]

@[simp] theorem fragments_renameBlock (b : Block (Nested α)) :
    (renameBlock f b).fragments = b.fragments.map (Fragment.rename f) := by
  cases b
  rw [renameBlock]

@[simp] theorem renameBlock_empty : renameBlock f (.empty : Block (Nested α)) = .empty := by
  rw [Block.empty, renameBlock, renameStatements, List.map_nil]

theorem renameBlock_addFragment (b : Block (Nested α)) (x : Fragment) :
    renameBlock f (b.addFragment x) = (renameBlock f b).addFragment (x.rename f) := by
  apply Block.ext <;> simp [Block.addFragment]

theorem renameBlock_addStatement (b : Block (Nested α)) (s : Statement (Nested α)) :
    renameBlock f (b.addStatement s) = (renameBlock f b).addStatement (renameStatement f s) := by
  apply Block.ext <;> simp [Block.addStatement]

theorem renameBlock_addValue (b : Block (Nested α)) (id : Ident) (e : Nested α) :
    renameBlock f (b.addValue id e) = (renameBlock f b).addValue (f id) (rename f e) := by
  rw [Block.addValue, renameBlock_addFragment, renameBlock_addStatement, renameStatement]
  rfl

end Nested

/-! ## Runs -/

/-- Two environments in which names with the same number have the same value. -/
def Env.Agree (p q : String) (env env' : Env) : Prop :=
  ∀ n, env'.get? (.numbered q n) = env.get? (.numbered p n)

namespace Env

variable {p q : String} {env env' : Env}

theorem Agree.bind (h : Agree p q env env') (n : Nat) (v : Tree) :
    Agree p q (env.bind (.numbered p n) v) (env'.bind (.numbered q n) v) := by
  intro k
  by_cases hk : n = k
  · subst hk
    rw [get?_bind_self, get?_bind_self]
  · have hp := mt (Ident.numbered_injective p ·) hk
    have hq := mt (Ident.numbered_injective q ·) hk
    rw [get?_bind_of_ne _ _ hp, get?_bind_of_ne _ _ hq, h k]

/-- Fragments make the same tree from either environment, if all names in them have values. -/
theorem Agree.gather (h : Agree p q env env') {χ : Type} {fragments : List Fragment}
    (hids : ∀ id ∈ fragments.filterMap Fragment.reference?,
      (∃ n, id = .numbered p n) ∧ (env.get? id).isSome) :
    (env'.gather (fragments.map (Fragment.rename (.restem p q))) : Except (ExecError χ) Tree) =
      env.gather fragments := by
  have hitems : (fragments.map (Fragment.rename (.restem p q))).mapM env'.item =
      (fragments.mapM env.item : Except (ExecError χ) (List Tree)) := by
    induction fragments with
    | nil => rfl
    | cons f rest ih =>
      cases f with
      | text t =>
        rw [List.map_cons, List.mapM_cons, List.mapM_cons, ih hids]
        rfl
      | ref id =>
        obtain ⟨⟨⟨n, rfl⟩, hvalue⟩, hrest⟩ := List.forall_mem_cons.1 hids
        obtain ⟨v, hv⟩ := Option.isSome_iff_exists.1 hvalue
        rw [List.map_cons, List.mapM_cons, List.mapM_cons, ih hrest, Fragment.rename,
          Ident.restem_numbered, item, item, h n, hv]
  rw [Env.gather, Env.gather, hitems]

end Env

namespace Nested

variable {σ α χ : Type} {p q : String} {ev : Evaluator σ α χ}

/-- Programs of which all names are made with the stem, and all that are mentioned are bound, also
in the programs inside of them. -/
inductive Formed (stem : String) : Nested α → Prop
  | atom (a : α) : Formed stem (atom a)
  | block (b : Block (Nested α)) (hnumbered : ∀ id ∈ b.bindings, ∃ n, id = .numbered stem n)
    (hreferences : b.references = b.bindings) (hexprs : ∀ s ∈ b.statements, Formed stem s.expr) :
    Formed stem (block b)

/-- An expression is evaluated alike with either stem, whatever values have names. -/
def Alike (ev : Evaluator σ α χ) (p q : String) (e : Nested α) : Prop :=
  ∀ env env', (evaluator ev).eval (e.rename (.restem p q)) env' = (evaluator ev).eval e env ∧
    (evaluator ev).exec (e.rename (.restem p q)) env' = (evaluator ev).exec e env

/-- Statements end alike with either stem: with the same fault, or with environments that agree; in
either case in the same state. -/
inductive EndsAlike {ψ : Type} (p q : String) :
    Except ψ Env × σ → Except ψ Env × σ → Prop
  | error (e : ψ) (s : σ) : EndsAlike p q (.error e, s) (.error e, s)
  | ok {env env' : Env} (s : σ) (h : env.Agree p q env') : EndsAlike p q (.ok env, s) (.ok env', s)

/-- Statements end alike if their expressions are evaluated alike. -/
theorem endsAlike_runFrom {statements : List (Statement (Nested α))}
    (hexprs : ∀ s ∈ statements, Alike ev p q s.expr)
    (hids : ∀ id ∈ statements.filterMap Statement.binding?, ∃ n, id = .numbered p n)
    (index : Nat) {env env' : Env} (h : env.Agree p q env') (s : σ) :
    EndsAlike p q (((evaluator ev).runFrom index env statements).on s)
      (((evaluator ev).runFrom index env'
        (statements.map (renameStatement (.restem p q)))).on s) := by
  induction statements generalizing index env env' s with
  | nil => exact .ok s h
  | cons st rest ih =>
    obtain ⟨hexpr, hrest⟩ := List.forall_mem_cons.1 hexprs
    cases st with
    | bind id e =>
      obtain ⟨⟨n, rfl⟩, hothers⟩ := List.forall_mem_cons.1 hids
      have heval : (evaluator ev).eval (e.rename (.restem p q)) env' = (evaluator ev).eval e env :=
        (hexpr env env').1
      rw [List.map_cons, renameStatement, Ident.restem_numbered, Evaluator.runFrom_bind,
        Evaluator.runFrom_bind, heval, Action.on_bind, Action.on_bind]
      rcases ((evaluator ev).eval e env).mapError (ExecError.eval index) |>.on s with ⟨x | v, t⟩
      · exact .error x t
      · exact ih hrest hothers (index + 1) (h.bind n v) t
    | effect e =>
      have hexec : (evaluator ev).exec (e.rename (.restem p q)) env' = (evaluator ev).exec e env :=
        (hexpr env env').2
      rw [List.map_cons, renameStatement, Evaluator.runFrom_effect,
        Evaluator.runFrom_effect, hexec, Action.on_bind, Action.on_bind]
      rcases ((evaluator ev).exec e env).mapError (ExecError.eval index) |>.on s with ⟨x | v, t⟩
      · exact .error x t
      · exact ih hrest hids (index + 1) h t

/-- **A program runs alike with either stem** if its expressions are evaluated alike. -/
theorem execute_rename {b : Block (Nested α)} (hexprs : ∀ s ∈ b.statements, Alike ev p q s.expr)
    (hnumbered : ∀ id ∈ b.bindings, ∃ n, id = .numbered p n)
    (hreferences : b.references = b.bindings) :
    execute (evaluator ev) (renameBlock (.restem p q) b) = execute (evaluator ev) b := by
  apply Action.ext
  intro s
  have hempty : Env.empty.Agree p q .empty := fun _ => rfl
  have hends := endsAlike_runFrom hexprs hnumbered 0 hempty s
  rw [execute, execute, statements_renameBlock, fragments_renameBlock, Action.on_bind,
    Action.on_bind]
  cases hrun : ((evaluator ev).runFrom 0 .empty b.statements).on s with
  | mk result t =>
    rw [hrun] at hends
    generalize ((evaluator ev).runFrom 0 .empty (b.statements.map _)).on s = other at hends ⊢
    cases hends with
    | error e => rfl
    | @ok env env' _ h =>
      have hids : ∀ id ∈ b.references, (∃ n, id = .numbered p n) ∧ (env.get? id).isSome := by
        intro id hid
        rw [hreferences] at hid
        exact ⟨hnumbered id hid,
          (Evaluator.isSome_get?_of_runFrom _ hrun id).2 (.inl hid)⟩
      dsimp only
      rw [h.gather hids]

/-- Running a block for its effect drops the tree. -/
theorem evaluator_exec_block (ev : Evaluator σ α χ) (program : Block (Nested α)) (env : Env) :
    (evaluator ev).exec (.block program) env =
      (execute (evaluator ev) program).mapError NestedError.block >>= fun _ => pure () := by
  simp [evaluator, execNested, runBlock_eq_execute]

/-- Programs with names of one stem are evaluated alike with another one, at every depth. -/
theorem alike_of_formed (hev : ev.IgnoresNames) {e : Nested α} (h : Formed p e) :
    Alike ev p q e := by
  -- The induction is on the nesting: the programs inside of a block run alike already.
  induction h with
  | atom a =>
    intro env env'
    rw [rename]
    constructor
    · show evalNested ev env' (atom a) = evalNested ev env (atom a)
      rw [evalNested, evalNested, hev.eval a env', hev.eval a env]
    · show execNested ev env' (atom a) = execNested ev env (atom a)
      rw [execNested, execNested, hev.exec a env', hev.exec a env]
  | block b hnumbered hreferences _ ih =>
    intro env env'
    have hrun := execute_rename (q := q) ih hnumbered hreferences
    rw [rename]
    constructor
    · rw [evaluator_eval_block, evaluator_eval_block, hrun]
    · rw [evaluator_exec_block, evaluator_exec_block, hrun]

end Nested

end TextTemplate
