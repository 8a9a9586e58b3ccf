import TextTemplate.Tree.Leaves

/-!
# Trees written piece by piece

- `Leaves.writeTo`: leaves handed over one by one; the next is looked for when one was taken.
- `Tree.writeTo`: a tree handed over leaf by leaf to a writer that may refuse one.
- `Tree.display`: the same, where a layout was asked for.
- `Tree.writeBytesTo`: the bytes of a tree handed over leaf by leaf.
- `TextBuffer`: a writer with limited room. It refuses a text that does not fit as a whole.
- `ByteSink`: a sink that may take a part of the bytes it is offered.
- `Tree.writeBytes`: a tree handed over to a sink; every leaf is offered until all of it is taken.
-/

namespace TextTemplate

/-- An action on a state that may fail; the state is kept when it fails. -/
abbrev Action (σ ε : Type) := ExceptT ε (StateM σ)

namespace Leaves

/-- Hands over the leaves of a stack, up to the first that is refused. What comes after a leaf is
visited only when that leaf was taken. -/
def writeOf {σ ε : Type} (write : String → Action σ ε Unit) (stack : List Tree) :
    Action σ ε Unit :=
  match _h : nextOf stack with
  | none => return ()
  | some (s, rest) => do
    write s
    writeOf write rest
termination_by Tree.stepsList stack
decreasing_by exact stepsList_of_nextOf _h

/-- Hands over the leaves that are still to come, up to the first that is refused. -/
def writeTo {σ ε : Type} (write : String → Action σ ε Unit) (l : Leaves) : Action σ ε Unit :=
  writeOf write l.stack

end Leaves

/-- How wide a text is asked to be at least, and how many characters of it are asked for at most. -/
structure Layout where
  width : Option Nat
  precision : Option Nat
deriving Repr

namespace Tree

/-- Hands the leaves over from left to right, up to the first that is refused. -/
def writeTo {σ ε : Type} (write : String → Action σ ε Unit) (t : Tree) : Action σ ε Unit :=
  t.visit.writeTo write

/-- Hands the leaves over where a layout was asked for: nothing is filled up or cut off. -/
def display {σ ε : Type} (_layout : Layout) (write : String → Action σ ε Unit) (t : Tree) :
    Action σ ε Unit :=
  t.writeTo write

/-- Hands the bytes of the leaves over from left to right, up to the first leaf that is refused. -/
def writeBytesTo {σ ε : Type} (writeAll : List UInt8 → Action σ ε Unit) (t : Tree) :
    Action σ ε Unit :=
  t.writeTo fun s => writeAll s.toUTF8.data.toList

end Tree

/-! ## A writer of texts -/

/-- A writer that keeps what it is given as long as there is room. -/
structure TextBuffer where
  /-- The number of bytes that it may hold, if there is a limit. -/
  room : Option Nat
  /-- What it holds. -/
  text : String
  /-- The number of texts that it was given, refused ones included. -/
  calls : Nat
deriving Repr

namespace TextBuffer

/-- A writer that holds nothing. -/
def new (room : Option Nat) : TextBuffer := ⟨room, "", 0⟩

/-- Whether a text fits. -/
def fits (b : TextBuffer) (s : String) : Bool :=
  match b.room with
  | none => true
  | some n => b.text.utf8ByteSize + s.utf8ByteSize ≤ n

/-- Keeps a text, or refuses it as a whole. -/
def write (s : String) : Action TextBuffer Unit Unit := do
  let b ← get
  if b.fits s then set { b with text := b.text ++ s, calls := b.calls + 1 }
  else
    set { b with calls := b.calls + 1 }
    throw ()

end TextBuffer

/-! ## A sink of bytes -/

/-- Why a sink fails: it takes nothing of what it is offered. -/
inductive SinkError
  | nothingTaken
deriving DecidableEq, Repr

namespace SinkError

/-- The error as it is reported. -/
def message : SinkError → String
  | nothingTaken => "WriteZero: failed to write whole buffer"

end SinkError

/-- A sink that takes a limited number of bytes at a time and in all. -/
structure ByteSink where
  /-- The number of bytes that it may hold, if there is a limit. -/
  room : Option Nat
  /-- The number of bytes that it takes at a time, if there is a limit. -/
  step : Option Nat
  /-- What it holds. -/
  bytes : List UInt8
  /-- The number of times that it was offered bytes. -/
  calls : Nat
deriving Repr

namespace ByteSink

/-- A sink that holds nothing. -/
def new (room step : Option Nat) : ByteSink := ⟨room, step, [], 0⟩

/-- The number of bytes that the sink takes of an offer. -/
def takes (b : ByteSink) (offer : List UInt8) : Nat :=
  let limit (n : Option Nat) (m : Nat) := match n with
    | none => m
    | some n => min n m
  limit (b.room.map (· - b.bytes.length)) (limit b.step offer.length)

/-- Offers bytes until all of them are taken. -/
def writeAll (offer : List UInt8) : Action ByteSink SinkError Unit := do
  if offer.isEmpty then return ()
  let b ← get
  let n := b.takes offer
  set { b with bytes := b.bytes ++ offer.take n, calls := b.calls + 1 }
  if n = 0 then throw .nothingTaken
  else writeAll (offer.drop n)
termination_by offer.length
decreasing_by
  have : offer ≠ [] := by
    intro h
    simp_all
  have := List.length_pos_iff.2 this
  simp
  omega

end ByteSink

namespace Tree

/-- Hands the bytes of the leaves over to a sink. -/
def writeBytes (t : Tree) : Action ByteSink SinkError Unit :=
  t.writeBytesTo ByteSink.writeAll

end Tree

end TextTemplate
