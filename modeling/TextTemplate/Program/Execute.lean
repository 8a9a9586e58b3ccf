import TextTemplate.Program.Block
import TextTemplate.Tree.Stream

/-!
# Running a program

A program is run by an evaluator of its expressions, which has a state of its own and may look at
the values that have names so far.

- `Env`: the values that have names. A name that is bound again has the later value.
- `Evaluator`: how expressions are evaluated for their value and for their effect.
- `ExecError`: why a run fails.
- `execute`: the statements in order, then the tree of the fragments.
-/

namespace TextTemplate

/-! ## Values with names -/

/-- The values that have names, the latest first. -/
structure Env where
  entries : List (Ident × Tree)
deriving Repr

namespace Env

/-- No value has a name. -/
def empty : Env := ⟨[]⟩

/-- Gives a value a name. -/
def bind (env : Env) (id : Ident) (value : Tree) : Env := ⟨(id, value) :: env.entries⟩

/-- The latest value of a name. -/
def get? (env : Env) (id : Ident) : Option Tree :=
  (env.entries.find? fun entry => entry.1 = id).map (·.2)

/-- The number of names that have values. -/
def size (env : Env) : Nat := (env.entries.map (·.1)).eraseDups.length

/-- Whether no value has a name. -/
def isEmpty (env : Env) : Bool := env.entries.isEmpty

@[simp] theorem get?_empty (id : Ident) : empty.get? id = none := rfl

@[simp] theorem get?_bind_self (env : Env) (id : Ident) (value : Tree) :
    (env.bind id value).get? id = some value := by
  simp [get?, bind]

theorem get?_bind_of_ne (env : Env) {id other : Ident} (value : Tree) (h : id ≠ other) :
    (env.bind id value).get? other = env.get? other := by
  simp [get?, bind, h]

end Env

/-! ## Evaluators -/

/-- How expressions are evaluated. -/
structure Evaluator (σ ε χ : Type) where
  /-- The value of an expression that is part of the text. -/
  eval : ε → Env → Action σ χ Tree
  /-- The effect of an expression that is not. -/
  exec : ε → Env → Action σ χ Unit

/-- Why a run fails. -/
inductive ExecError (χ : Type)
  /-- A fragment mentions a name without a value. -/
  | unbound (id : Ident)
  /-- The statement with a number fails. -/
  | eval (index : Nat) (source : χ)
deriving DecidableEq, Repr

namespace ExecError

/-- The reason in words, given those of the evaluator. -/
def message {χ : Type} (source : χ → String) : ExecError χ → String
  | unbound id => "fragment references unbound identifier `" ++ id.name ++ "`"
  | eval index e => "statement " ++ toString index ++ " failed: " ++ source e

end ExecError

/-! ## Runs -/

namespace Action

/-- The action with another error. -/
def mapError {σ χ ψ α : Type} (f : χ → ψ) (a : Action σ χ α) : Action σ ψ α :=
  ExceptT.mk (a.run.map fun r => r.mapError f)

end Action

namespace Evaluator

variable {σ ε χ : Type}

/-- Runs one statement. -/
def step (ev : Evaluator σ ε χ) (env : Env) : Statement ε → Action σ χ Env
  | .bind id e => do
    let value ← ev.eval e env
    return env.bind id value
  | .effect e => do
    ev.exec e env
    return env

/-- Runs statements of which the first has the given number. -/
def runFrom (ev : Evaluator σ ε χ) (index : Nat) (env : Env) :
    List (Statement ε) → Action σ (ExecError χ) Env
  | [] => return env
  | s :: rest => do
    let env ← (ev.step env s).mapError (.eval index)
    ev.runFrom (index + 1) env rest

end Evaluator

namespace Env

/-- The tree of a fragment. -/
def item {χ : Type} (env : Env) : Fragment → Except (ExecError χ) Tree
  | .text s => .ok (.text s)
  | .ref id =>
    match env.get? id with
    | some value => .ok (.shared value)
    | none => .error (.unbound id)

/-- The tree of a list of fragments. The first name without a value is reported. -/
def gather {χ : Type} (env : Env) (fragments : List Fragment) : Except (ExecError χ) Tree :=
  (fragments.mapM env.item).map .list

end Env

/-- Runs a program: its statements in order, then the tree of its fragments. -/
def execute {σ ε χ : Type} (ev : Evaluator σ ε χ) (program : Block ε) :
    Action σ (ExecError χ) Tree := do
  let env ← ev.runFrom 0 .empty program.statements
  MonadExcept.ofExcept (env.gather program.fragments)

end TextTemplate
