import TextTemplate.Program.State

/-!
# Chunks

A template without blocks is a list of chunks.

- `Chunk`: a text, or an expression and its marker.
- `State.feed`: chunks added to a compilation in order.
- `Chunk.compile`: the program of a list of chunks.
-/

namespace TextTemplate

/-- A part of a template without blocks. -/
inductive Chunk (ε : Type)
  | text (s : String)
  | expression (marker : Marker) (expr : ε)
deriving DecidableEq, Repr

namespace State

variable {ε : Type}

/-- Adds a chunk. -/
def chunk (s : State ε) : Chunk ε → State ε
  | .text t => s.text t
  | .expression marker e => s.expression marker e

/-- Adds chunks in order. -/
def feed (s : State ε) (chunks : List (Chunk ε)) : State ε :=
  chunks.foldl chunk s

@[simp] theorem feed_nil (s : State ε) : s.feed [] = s := rfl

@[simp] theorem feed_cons (s : State ε) (c : Chunk ε) (rest : List (Chunk ε)) :
    s.feed (c :: rest) = (s.chunk c).feed rest := rfl

end State

namespace Chunk

variable {ε : Type}

/-- The program of a list of chunks. -/
def compile (chunks : List (Chunk ε)) (options : Options) : Block ε :=
  ((State.init options).begin.2.feed chunks).finalize

end Chunk

end TextTemplate
