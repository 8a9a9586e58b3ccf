import TextTemplate.Code.Printer
import TextTemplate.Program.Block

/-!
# Code made from a program

A program over pieces of code becomes one block of code: its statements in order, each ended by a
semicolon, then the list of its fragments.

- `Emit.binding`, `Emit.effect`, `Emit.leaf`, `Emit.list`: the parts of that code.
- `Block.emit`: the code of a program, or the first name in it that is no identifier.
- `Emit.defaultRuntime`: where the types that the code uses are found when nothing else is said.
-/

namespace TextTemplate

namespace Emit

/-- A mark of one character. -/
def mark (c : Char) : Code := Code.joined [c]

/-- The mark between the names of a path. -/
def colons : Code := Code.joined [':', ':']

/-- A path that goes on from another one. -/
def path (front : Code) (names : List String) : Code :=
  front ++ names.flatMap fun name => colons ++ [.word name]

/-- Where the types that the code uses are found when nothing else is said. -/
def defaultRuntime : Code := path [] ["fragtree"]

/-- A call of a function with one argument. -/
def call (function argument : Code) : Code := function ++ [.group .paren argument]

/-- The statement that binds the tree of an expression to a name. -/
def binding (runtime : Code) (id : Token) (expr : Code) : Code :=
  .word "let" :: id :: mark '=' ++
    call (path runtime ["IntoFragment", "into_fragment"]) expr ++ mark ';'

/-- The statement that runs an expression. -/
def effect (expr : Code) : Code := expr ++ mark ';'

/-- The tree of a text. -/
def leaf (runtime : Code) (s : String) : Code :=
  call (path runtime ["FragmentTree", "Text"])
    (call (path [] ["std", "borrow", "Cow", "Borrowed"]) [.ofText s])

/-- Items with commas between them. -/
def commas : List Code → Code
  | [] => []
  | [item] => item
  | item :: rest => item ++ mark ',' ++ commas rest

/-- The tree of a list of items. -/
def list (runtime : Code) (items : List Code) : Code :=
  call (path runtime ["FragmentTree", "List"])
    (path [] ["std", "vec"] ++ mark '!' ++ [.group .bracket (commas items)])

/-- The code of a statement. -/
def statement (runtime : Code) : Statement Code → Except InvalidIdent Code
  | .bind id e => id.toToken.map fun t => binding runtime t e
  | .effect e => .ok (effect e)

/-- The code of a fragment. -/
def fragment (runtime : Code) : Fragment → Except InvalidIdent Code
  | .text s => .ok (leaf runtime s)
  | .ref id => id.toToken.map fun t => [t]

end Emit

namespace Block

/-- The code of a program. Names are looked at in the order in which they are written. -/
def emit (runtime : Code) (b : Block Code) : Except InvalidIdent Code := do
  let statements ← b.statements.mapM (Emit.statement runtime)
  let fragments ← b.fragments.mapM (Emit.fragment runtime)
  return [.group .brace (statements.flatten ++ Emit.list runtime fragments)]

end Block

end TextTemplate
