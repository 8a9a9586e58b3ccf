import TextTemplate.Program.Ident

/-!
# Blocks

A block is what a stretch of a template compiles to: statements that compute values, and fragments
that say how the text is put together from them.

- `Fragment`, `Statement`, `Block`: the parts. A finished block is a program.
- `Block.addStatement`, `Block.addFragment`, `Block.append`: blocks grow at their ends only.
- `Block.bindings`, `Block.references`: the names that a block binds and those that it mentions.
-/

namespace TextTemplate

/-- A part of the text of a block. -/
inductive Fragment
  /-- Text, as it is. -/
  | text (s : String)
  /-- The value of a name. -/
  | ref (id : Ident)
deriving DecidableEq, Repr

/-- A step of a block. -/
inductive Statement (ε : Type)
  /-- Evaluates an expression once and gives its value a name. -/
  | bind (id : Ident) (expr : ε)
  /-- Evaluates an expression for its effect. -/
  | effect (expr : ε)
deriving DecidableEq, Repr

/-- Statements, in the order in which they run, and fragments, in the order of the text. -/
@[ext]
structure Block (ε : Type) where
  statements : List (Statement ε)
  fragments : List Fragment
deriving DecidableEq, Repr

namespace Statement

variable {ε : Type}

/-- The name that a statement binds. -/
def binding? : Statement ε → Option Ident
  | bind id _ => some id
  | effect _ => none

/-- The expression of a statement. -/
def expr : Statement ε → ε
  | bind _ e => e
  | effect e => e

end Statement

namespace Fragment

/-- The name that a fragment mentions. -/
def reference? : Fragment → Option Ident
  | text _ => none
  | ref id => some id

end Fragment

namespace Block

variable {ε : Type}

/-- The block that does nothing. -/
def empty : Block ε := ⟨[], []⟩

instance : Inhabited (Block ε) := ⟨empty⟩

/-- Whether a block neither runs anything nor yields a fragment. -/
def isEmpty (b : Block ε) : Bool := b.statements.isEmpty && b.fragments.isEmpty

/-- Adds a statement at the end. -/
def addStatement (b : Block ε) (s : Statement ε) : Block ε :=
  { b with statements := b.statements ++ [s] }

/-- Adds a fragment at the end. -/
def addFragment (b : Block ε) (f : Fragment) : Block ε :=
  { b with fragments := b.fragments ++ [f] }

/-- Binds the value of an expression to a name and puts the value into the text. -/
def addValue (b : Block ε) (id : Ident) (e : ε) : Block ε :=
  (b.addStatement (.bind id e)).addFragment (.ref id)

/-- One block after another. -/
def append (a b : Block ε) : Block ε :=
  ⟨a.statements ++ b.statements, a.fragments ++ b.fragments⟩

instance : Append (Block ε) := ⟨append⟩

/-- The names that a block binds, in order. -/
def bindings (b : Block ε) : List Ident := b.statements.filterMap Statement.binding?

/-- The names that the text of a block mentions, in order. -/
def references (b : Block ε) : List Ident := b.fragments.filterMap Fragment.reference?

@[simp] theorem statements_empty : (empty : Block ε).statements = [] := rfl

@[simp] theorem fragments_empty : (empty : Block ε).fragments = [] := rfl

@[simp] theorem statements_append (a b : Block ε) :
    (a ++ b).statements = a.statements ++ b.statements := rfl

@[simp] theorem fragments_append (a b : Block ε) :
    (a ++ b).fragments = a.fragments ++ b.fragments := rfl

@[simp] theorem empty_append (b : Block ε) : empty ++ b = b := rfl

@[simp] theorem append_empty (b : Block ε) : b ++ empty = b :=
  Block.ext (List.append_nil _) (List.append_nil _)

theorem append_assoc (a b c : Block ε) : a ++ b ++ c = a ++ (b ++ c) :=
  Block.ext (List.append_assoc _ _ _) (List.append_assoc _ _ _)

@[simp] theorem bindings_append (a b : Block ε) :
    (a ++ b).bindings = a.bindings ++ b.bindings := by
  simp [bindings]

@[simp] theorem references_append (a b : Block ε) :
    (a ++ b).references = a.references ++ b.references := by
  simp [references]

/-- Adding a statement appends the block that has nothing else. -/
theorem addStatement_eq_append (b : Block ε) (s : Statement ε) :
    b.addStatement s = b ++ ⟨[s], []⟩ :=
  Block.ext rfl (List.append_nil _).symm

/-- Adding a fragment appends the block that has nothing else. -/
theorem addFragment_eq_append (b : Block ε) (f : Fragment) :
    b.addFragment f = b ++ ⟨[], [f]⟩ :=
  Block.ext (List.append_nil _).symm rfl

/-- Adding a value appends the block of its statement and its fragment. -/
theorem addValue_eq_append (b : Block ε) (id : Ident) (e : ε) :
    b.addValue id e = b ++ ⟨[.bind id e], [.ref id]⟩ := rfl

end Block

end TextTemplate
