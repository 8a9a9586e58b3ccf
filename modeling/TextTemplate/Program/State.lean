import TextTemplate.Program.Block
import TextTemplate.Program.Marker

/-!
# Compiling step by step

The compiler keeps the block that is being filled, and counts the names that it has given. A block
inside of another one is begun by putting the outer block aside, and ended by taking it up again;
the count goes on, so that no name is given twice.

- `Options`: the stem of the names, and the line at which a template begins.
- `Fallback`: what is done with an expression whose tag is neither output nor effect.
- `State`: the state, with `text`, `expression`, `fresh`, `begin`, `finish`, `block` as its steps.
- `State.value_eq_expression`: a value is an output of which the name is handed out.
- `State.finalize`: the program in the end.
-/

namespace TextTemplate

/-- The settings of a compilation. -/
structure Options where
  /-- The number of lines before the template; only faults depend on it. -/
  lineOffset : Nat
  /-- What every name begins with. -/
  stem : String
deriving DecidableEq, Repr

namespace Options

/-- The settings when none are given. -/
def standard : Options := ⟨0, "arg"⟩

instance : Inhabited Options := ⟨standard⟩

end Options

/-- What is done with an expression that has a tag of its own: the block as it is before and
after. -/
abbrev Fallback (ε : Type) := Block ε → String → ε → Block ε

namespace Fallback

variable {ε : Type}

/-- Drops remarks and runs everything else for its effect. -/
def standard : Fallback ε := fun scope tag e =>
  if isComment tag then scope else scope.addStatement (.effect e)

end Fallback

/-- The state of a compilation. -/
structure State (ε : Type) where
  /-- The block that is being filled. -/
  scope : Block ε
  /-- The number of names that were given. -/
  counter : Nat
  options : Options
  fallback : Fallback ε

namespace State

variable {ε : Type}

/-- The state at the beginning. -/
def init (options : Options) : State ε := ⟨.empty, 0, options, .standard⟩

/-- The same state with another fallback. -/
def withFallback (s : State ε) (fallback : Fallback ε) : State ε := { s with fallback }

/-- Adds a text. -/
def text (s : State ε) (t : String) : State ε :=
  { s with scope := s.scope.addFragment (.text t) }

/-- Gives the next name. -/
def fresh (s : State ε) : Ident × State ε :=
  (.numbered s.options.stem s.counter, { s with counter := s.counter + 1 })

/-- Adds an expression that is bound to the next name and put into the text. -/
def value (s : State ε) (e : ε) : Ident × State ε :=
  let (id, s) := s.fresh
  (id, { s with scope := s.scope.addValue id e })

/-- Adds an expression as its marker says. -/
def expression (s : State ε) (marker : Marker) (e : ε) : State ε :=
  match marker with
  | .output => (s.value e).2
  | .effect => { s with scope := s.scope.addStatement (.effect e) }
  | .other tag => { s with scope := s.fallback s.scope tag e }

/-- A value is an output of which the name is handed out. -/
theorem value_eq_expression (s : State ε) (e : ε) :
    s.value e = (s.fresh.1, s.expression .output e) := rfl

/-- Begins a block; the block around it is handed out. -/
def begin (s : State ε) : Block ε × State ε :=
  (s.scope, { s with scope := .empty })

/-- Ends a block and goes on with the one around it; the finished block is handed out. -/
def finish (s : State ε) (parent : Block ε) : Block ε × State ε :=
  (s.scope, { s with scope := parent })

/-- Adds a finished block as one value of this one. The name is given before the block is made an
expression. -/
def block (s : State ε) (b : Block ε) (wrap : Block ε → ε) : Ident × State ε :=
  s.value (wrap b)

/-- The program in the end. -/
def finalize (s : State ε) : Block ε := s.scope

end State

end TextTemplate
