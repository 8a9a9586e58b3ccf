import TextTemplate.Program.State

/-!
# Blocks are compiled apart from each other

Between the beginning and the end of a block anything may be done to the compilation, as long as the
blocks that are begun inside of it are ended there. Whatever the fallback does with the block that it
is given, it never gets hold of the one around it.

- `Balanced`: the steps of a script in which every block that is begun is ended.
- `Progress`, `Progress.step`, `Progress.steps`: a compilation with the blocks that it has finished.
- `Balanced.nameCount`: how many names a script takes.
- `state_step`, `state_steps`: a script changes the block that is being filled, and the counter.
- `step_relocate`, `steps_relocate`: where the template begins has no influence.
- `State.enclose_isolated`: the main statement.
-/

namespace TextTemplate

/-- A step of a script in which every block that is begun is ended. -/
inductive Balanced (ε : Type)
  | text (t : String)
  | expression (marker : Marker) (e : ε)
  /-- Asks for a name. -/
  | fresh
  /-- Adds the block that has the number among those that the script has ended before. -/
  | block (number : Nat) (wrap : Block ε → ε)
  /-- Begins a block, takes steps in it, and ends it. -/
  | nested (inner : List (Balanced ε))

namespace Balanced

variable {ε : Type}

mutual

/-- The number of names that a step takes, at every depth. -/
def nameCount : Balanced ε → Nat
  | text _ => 0
  | expression .output _ => 1
  | expression .effect _ | expression (.other _) _ => 0
  | fresh => 1
  | block _ _ => 1
  | nested inner => nameCountAll inner

/-- The number of names that steps take. -/
def nameCountAll : List (Balanced ε) → Nat
  | [] => 0
  | m :: rest => m.nameCount + nameCountAll rest

end

end Balanced

/-- A compilation, and the blocks that a script has ended so far. -/
structure Progress (ε : Type) where
  state : State ε
  finished : List (Block ε)

namespace Progress

variable {ε : Type}

mutual

/-- Takes a step of a script. Where no block has the number, the one that does nothing is meant. -/
def step (z : Progress ε) : Balanced ε → Progress ε
  | .text t => { z with state := z.state.text t }
  | .expression marker e => { z with state := z.state.expression marker e }
  | .fresh => { z with state := z.state.fresh.2 }
  | .block number wrap =>
    { z with state := (z.state.block (z.finished.getD number .empty) wrap).2 }
  | .nested inner =>
    let (parent, state) := z.state.begin
    let z := steps { z with state } inner
    let (program, state) := z.state.finish parent
    ⟨state, z.finished ++ [program]⟩

/-- Takes the steps of a script. -/
def steps (z : Progress ε) : List (Balanced ε) → Progress ε
  | [] => z
  | m :: rest => steps (step z m) rest

end

/-! ## What a script changes -/

mutual

/-- A step leaves everything but the block that is being filled and the counter as it is. -/
theorem state_step (z : Progress ε) (m : Balanced ε) :
    ∃ scope, (z.step m).state =
      { z.state with scope, counter := z.state.counter + m.nameCount } := by
  match m with
  | .text t => exact ⟨_, rfl⟩
  | .expression .output e => exact ⟨_, rfl⟩
  | .expression .effect e => exact ⟨_, rfl⟩
  | .expression (.other tag) e => exact ⟨_, rfl⟩
  | .fresh => exact ⟨z.state.scope, rfl⟩
  | .block number wrap => exact ⟨_, rfl⟩
  | .nested inner =>
    obtain ⟨scope, hstate⟩ := state_steps { z with state := z.state.begin.2 } inner
    refine ⟨z.state.scope, ?_⟩
    show ((steps { z with state := z.state.begin.2 } inner).state.finish z.state.scope).2 = _
    rw [hstate]
    rfl

/-- A script leaves everything but the block that is being filled and the counter as it is. -/
theorem state_steps (z : Progress ε) (script : List (Balanced ε)) :
    ∃ scope, (z.steps script).state =
      { z.state with scope, counter := z.state.counter + Balanced.nameCountAll script } := by
  match script with
  | [] => exact ⟨z.state.scope, rfl⟩
  | m :: rest =>
    obtain ⟨inner, hstep⟩ := state_step z m
    obtain ⟨scope, hrest⟩ := state_steps (z.step m) rest
    refine ⟨scope, ?_⟩
    rw [steps, hrest, hstep, Balanced.nameCountAll, ← Nat.add_assoc]

end

/-! ## What a script depends on -/

/-- The same progress with another number of lines before the template. -/
def relocate (lineOffset : Nat) (z : Progress ε) : Progress ε :=
  { z with state := { z.state with options := { z.state.options with lineOffset } } }

mutual

theorem step_relocate (lineOffset : Nat) (z : Progress ε) (m : Balanced ε) :
    (z.relocate lineOffset).step m = (z.step m).relocate lineOffset := by
  match m with
  | .text t => rfl
  | .expression .output e => rfl
  | .expression .effect e => rfl
  | .expression (.other tag) e => rfl
  | .fresh => rfl
  | .block number wrap => rfl
  | .nested inner =>
    have hinner := steps_relocate lineOffset { z with state := z.state.begin.2 } inner
    rw [step, step]
    exact congrArg (fun z' : Progress ε =>
      (⟨{ z'.state with scope := z.state.scope }, z'.finished ++ [z'.state.scope]⟩ :
        Progress ε)) hinner

/-- Where the template begins has no influence on a script. -/
theorem steps_relocate (lineOffset : Nat) (z : Progress ε) (script : List (Balanced ε)) :
    (z.relocate lineOffset).steps script = (z.steps script).relocate lineOffset := by
  match script with
  | [] => rfl
  | m :: rest => rw [steps, steps, step_relocate, steps_relocate]

end

end Progress

namespace State

variable {ε : Type}

/-- Begins a block, takes the steps of a script, and ends the block. -/
def enclose (s : State ε) (script : List (Balanced ε)) : Block ε × State ε :=
  let (parent, s) := s.begin
  ((⟨s, []⟩ : Progress ε).steps script).state.finish parent

/-- **A block is compiled apart from the block around it**, whatever the fallback does. After its end
the compilation is where it was, except that the names of the block are given. The block itself
depends on nothing but the script, the fallback, the stem and the number of the first name: neither
the block around it nor the beginning of the template has an influence. -/
theorem enclose_isolated (s : State ε) (script : List (Balanced ε)) :
    (s.enclose script).2 = { s with counter := s.counter + Balanced.nameCountAll script } ∧
      ∀ (scope : Block ε) (lineOffset : Nat),
        (enclose ⟨scope, s.counter, ⟨lineOffset, s.options.stem⟩, s.fallback⟩ script).1 =
          (s.enclose script).1 := by
  constructor
  · obtain ⟨scope, hstate⟩ := Progress.state_steps ⟨s.begin.2, []⟩ script
    show (((⟨s.begin.2, []⟩ : Progress ε).steps script).state.finish s.scope).2 = _
    rw [hstate]
    rfl
  · intro scope lineOffset
    -- At its beginning the block is empty, so that only the line is left to tell the states apart.
    have hsteps := Progress.steps_relocate lineOffset ⟨s.begin.2, []⟩ script
    show ((Progress.relocate lineOffset ⟨s.begin.2, []⟩).steps script).state.scope = _
    rw [hsteps]
    rfl

end State

end TextTemplate
