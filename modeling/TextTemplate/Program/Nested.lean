import TextTemplate.Program.Execute

/-!
# Programs as expressions

A finished block may stand in another one as an expression. Evaluating it runs the block with names
of its own.

- `Nested`: an expression of some kind, or a program of such expressions; it is decidable whether
  two are equal.
- `Nested.evaluator`: an evaluator of expressions made one of nested expressions.
- `Nested.evaluator_eval_block`: a block is run by `execute` with that same evaluator.
-/

namespace TextTemplate

/-- An expression that may be a program. -/
inductive Nested (α : Type)
  | atom (a : α)
  | block (program : Block (Nested α))

namespace Nested

variable {α : Type} [DecidableEq α]

mutual

/-- Equality of nested expressions is decidable, by recursion on the first. -/
def decEq : (a b : Nested α) → Decidable (a = b)
  | atom x, atom y => if h : x = y then isTrue (h ▸ rfl) else isFalse fun e => h (atom.inj e)
  | block p, block q =>
    match decEqBlock p q with
    | isTrue h => isTrue (h ▸ rfl)
    | isFalse h => isFalse fun e => h (block.inj e)
  | atom _, block _ | block _, atom _ => isFalse nofun

/-- Equality of blocks of nested expressions. -/
def decEqBlock : (a b : Block (Nested α)) → Decidable (a = b)
  | ⟨xs, fs⟩, ⟨ys, gs⟩ =>
    match decEqStatements xs ys with
    | isTrue h =>
      if h' : fs = gs then isTrue (h ▸ h' ▸ rfl) else isFalse fun e => h' (Block.mk.inj e).2
    | isFalse h => isFalse fun e => h (Block.mk.inj e).1

/-- Equality of statements of nested expressions. -/
def decEqStatements : (xs ys : List (Statement (Nested α))) → Decidable (xs = ys)
  | [], [] => isTrue rfl
  | [], _ :: _ | _ :: _, [] => isFalse nofun
  | x :: xs, y :: ys =>
    match decEqStatement x y, decEqStatements xs ys with
    | isTrue h, isTrue h' => isTrue (h ▸ h' ▸ rfl)
    | isFalse h, _ => isFalse fun e => h (List.cons.inj e).1
    | _, isFalse h => isFalse fun e => h (List.cons.inj e).2

/-- Equality of two statements. -/
def decEqStatement : (a b : Statement (Nested α)) → Decidable (a = b)
  | .bind i x, .bind j y =>
    match decEq x y with
    | isTrue h =>
      if h' : i = j then isTrue (h ▸ h' ▸ rfl) else isFalse fun e => h' (Statement.bind.inj e).1
    | isFalse h => isFalse fun e => h (Statement.bind.inj e).2
  | .effect x, .effect y =>
    match decEq x y with
    | isTrue h => isTrue (h ▸ rfl)
    | isFalse h => isFalse fun e => h (Statement.effect.inj e)
  | .bind _ _, .effect _ | .effect _, .bind _ _ => isFalse nofun

end

instance : DecidableEq (Nested α) := decEq

end Nested

/-- Why a nested expression fails: the expression itself does, or the program that it is. -/
inductive NestedError (χ : Type)
  | atom (e : χ)
  | block (e : ExecError (NestedError χ))

namespace NestedError

/-- The reason in words, given those of the evaluator. -/
def message {χ : Type} (source : χ → String) : NestedError χ → String
  | atom e => source e
  | block (.unbound id) => ExecError.message (fun _ : Unit => "") (.unbound id)
  | block (.eval index e) => ExecError.message id (.eval index (e.message source))

end NestedError

namespace Nested

variable {σ α χ : Type}

mutual

/-- Runs a block of nested expressions. -/
def runBlock (ev : Evaluator σ α χ) : Block (Nested α) → Action σ (ExecError (NestedError χ)) Tree
  | ⟨statements, fragments⟩ => do
    let env ← runStatements ev 0 .empty statements
    MonadExcept.ofExcept (env.gather fragments)

/-- Runs statements of which the first has the given number. -/
def runStatements (ev : Evaluator σ α χ) (index : Nat) (env : Env) :
    List (Statement (Nested α)) → Action σ (ExecError (NestedError χ)) Env
  | [] => return env
  | s :: rest => do
    let env ← (runStatement ev env s).mapError (.eval index)
    runStatements ev (index + 1) env rest

/-- Runs one statement. -/
def runStatement (ev : Evaluator σ α χ) (env : Env) :
    Statement (Nested α) → Action σ (NestedError χ) Env
  | .bind id e => do
    let value ← evalNested ev env e
    return env.bind id value
  | .effect e => do
    execNested ev env e
    return env

/-- The value of a nested expression. -/
def evalNested (ev : Evaluator σ α χ) (env : Env) : Nested α → Action σ (NestedError χ) Tree
  | atom a => (ev.eval a env).mapError .atom
  | block program => (runBlock ev program).mapError .block

/-- The effect of a nested expression; a block is run, and its tree is dropped. -/
def execNested (ev : Evaluator σ α χ) (env : Env) : Nested α → Action σ (NestedError χ) Unit
  | atom a => (ev.exec a env).mapError .atom
  | block program => do
    let _ ← (runBlock ev program).mapError .block

end

/-- The evaluator of nested expressions. -/
def evaluator (ev : Evaluator σ α χ) : Evaluator σ (Nested α) (NestedError χ) where
  eval e env := evalNested ev env e
  exec e env := execNested ev env e

theorem runStatement_eq (ev : Evaluator σ α χ) (env : Env) (s : Statement (Nested α)) :
    runStatement ev env s = (evaluator ev).step env s := by
  cases s <;> simp [runStatement, Evaluator.step, evaluator]

theorem runStatements_eq (ev : Evaluator σ α χ) (index : Nat) (env : Env)
    (statements : List (Statement (Nested α))) :
    runStatements ev index env statements = (evaluator ev).runFrom index env statements := by
  induction statements generalizing index env with
  | nil => simp [runStatements, Evaluator.runFrom]
  | cons s rest ih => simp [runStatements, Evaluator.runFrom, runStatement_eq, ih]

/-- A block of nested expressions runs as any program does. -/
theorem runBlock_eq_execute (ev : Evaluator σ α χ) (program : Block (Nested α)) :
    runBlock ev program = execute (evaluator ev) program := by
  cases program
  simp [runBlock, execute, runStatements_eq]

/-- Evaluating a block runs it with the same evaluator. -/
theorem evaluator_eval_block (ev : Evaluator σ α χ) (program : Block (Nested α)) (env : Env) :
    (evaluator ev).eval (.block program) env =
      (execute (evaluator ev) program).mapError NestedError.block := by
  simp [evaluator, evalNested, runBlock_eq_execute]

end Nested

end TextTemplate
