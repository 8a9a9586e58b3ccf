import TextTemplate.Program.Chunk
import TextTemplate.Program.Emit
import TextTemplate.Template.Node

/-!
# Control in code

The nodes of a template are compiled to a program whose expressions are pieces of code and the
constructs of control: a block, a choice, a loop. Each of these yields a tree, and stands as one
value in the block around it.

- `Construct`: an expression of such a program.
- `Construct.ofNodes`: the program of a list of nodes.
- `Construct.render`: an expression as code, or the first name in it that is no identifier.
- `Template.compile`: the code of a list of nodes.
-/

namespace TextTemplate

/-- An expression in the code that a template becomes. -/
inductive Construct
  /-- Code, as it is. -/
  | code (c : Code)
  /-- A block, of which the tree is the value. -/
  | block (body : Block Construct)
  /-- The tree without text. -/
  | empty
  /-- A block if a condition holds, and another expression if it does not. -/
  | choice (condition : Code) (body : Block Construct) (otherwise : Construct)
  /-- The list of the trees that a block yields for each item. -/
  | loop (accumulator : Ident) (pattern iterator : Code) (body : Block Construct)

namespace Construct

/-! ## Nodes to programs -/

mutual

/-- Adds a node to a compilation. A choice or loop is compiled in blocks of its own and then added
as one value; a loop takes a name for its list before that. -/
def addNode (s : State Construct) : Node → State Construct
  | .text t => s.text t
  | .chunk marker c => s.expression marker (code c)
  | .choice condition body rest =>
    let (parent, s) := s.begin
    let (body, s) := (addNodes s body).finish parent
    let (otherwise, s) := alternative s rest
    -- All blocks of the choice have their names by now; its own comes last.
    s.expression .output (choice condition body otherwise)
  | .loop pattern iterator body =>
    let (accumulator, s) := s.fresh
    let (parent, s) := s.begin
    let (body, s) := (addNodes s body).finish parent
    (s.block body (loop accumulator pattern iterator)).2

/-- Adds nodes to a compilation. -/
def addNodes (s : State Construct) : List Node → State Construct
  | [] => s
  | n :: rest => addNodes (addNode s n) rest

/-- Compiles what is left of a choice; its blocks are compiled in the order of the template. -/
def alternative (s : State Construct) : Alternative → Construct × State Construct
  | .nothing => (empty, s)
  | .otherwise body =>
    let (parent, s) := s.begin
    let (body, s) := (addNodes s body).finish parent
    (block body, s)
  | .elseIf condition body rest =>
    let (parent, s) := s.begin
    let (body, s) := (addNodes s body).finish parent
    let (otherwise, s) := alternative s rest
    (choice condition body otherwise, s)

end

/-- The program of a list of nodes. -/
def ofNodes (nodes : List Node) (options : Options) : Block Construct :=
  (addNodes (State.init options).begin.2 nodes).finalize

/-! ## Programs to code -/

open Emit in
/-- The code of a choice. -/
def emitChoice (condition body otherwise : Code) : Code :=
  .word "if" :: condition ++ body ++ .word "else" :: otherwise

open Emit in
/-- The code that yields the tree without text. -/
def emitEmpty (runtime : Code) : Code :=
  [.group .brace (call (path runtime ["FragmentTree", "empty"]) [])]

open Emit in
/-- The code of a loop: a list that is empty at first, to which the tree of the body is added for
each item. -/
def emitLoop (runtime : Code) (accumulator : Token) (pattern iterator body : Code) : Code :=
  [.group .brace
    (.word "let" :: .word "mut" :: accumulator :: mark '=' ++
      call (path [] ["std", "vec", "Vec", "new"]) [] ++ mark ';' ++
      .word "for" :: pattern ++ .word "in" :: iterator ++
      [.group .brace (accumulator :: mark '.' ++ call [.word "push"] body ++ mark ';')] ++
      call (path runtime ["FragmentTree", "List"]) [accumulator])]

mutual

/-- The code of an expression. Names are looked at in the order in which code is made: inner blocks
come before the block around them, and the list of a loop before its body. -/
def render (runtime : Code) : Construct → Except InvalidIdent Code
  | code c => .ok c
  | block body => renderBlock runtime body
  | empty => .ok (emitEmpty runtime)
  | choice condition body otherwise => do
    let body ← renderBlock runtime body
    let otherwise ← render runtime otherwise
    return emitChoice condition body otherwise
  | loop accumulator pattern iterator body => do
    let accumulator ← accumulator.toToken
    let body ← renderBlock runtime body
    return emitLoop runtime accumulator pattern iterator body

/-- The code of a block: its expressions are made code first. -/
def renderBlock (runtime : Code) : Block Construct → Except InvalidIdent Code
  | ⟨statements, fragments⟩ => do
    let statements ← renderStatements runtime statements
    Block.emit runtime ⟨statements, fragments⟩

/-- Statements with their expressions made code. -/
def renderStatements (runtime : Code) :
    List (Statement Construct) → Except InvalidIdent (List (Statement Code))
  | [] => .ok []
  | s :: rest => do
    let s ← renderStatement runtime s
    let rest ← renderStatements runtime rest
    return s :: rest

/-- A statement with its expression made code. -/
def renderStatement (runtime : Code) : Statement Construct → Except InvalidIdent (Statement Code)
  | .bind id e => do
    let c ← render runtime e
    return .bind id c
  | .effect e => do
    let c ← render runtime e
    return .effect c

end

end Construct

namespace Template

/-- The code of a list of nodes. -/
def compile (runtime : Code) (options : Options) (nodes : List Node) : Except InvalidIdent Code :=
  Construct.renderBlock runtime (Construct.ofNodes nodes options)

end Template

end TextTemplate
