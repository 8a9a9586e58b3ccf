import TextTemplate.Program.State

/-!
# Diagnostics of a compilation

- `Block.debug`, `State.debug`: a block and a state as diagnostics show them, given how an
  expression is shown. The fallback of a state is not shown.
-/

namespace TextTemplate

/-- The fields of a record as diagnostics show them. -/
def debugRecord (name : String) (fields : List String) : String :=
  name ++ " \x7b " ++ String.intercalate ", " fields ++ " \x7d"

/-- A list as diagnostics show it. -/
def debugList (items : List String) : String :=
  "[" ++ String.intercalate ", " items ++ "]"

namespace Ident

/-- A name as diagnostics show it. -/
def debug (id : Ident) : String := "FreshIdent(" ++ Text.quoteAll id.name ++ ")"

end Ident

namespace Fragment

/-- A fragment as diagnostics show it. -/
def debug : Fragment → String
  | text s => "Text(" ++ Text.quoteAll s ++ ")"
  | ref id => "Ref(" ++ id.debug ++ ")"

end Fragment

namespace Statement

/-- A statement as diagnostics show it. -/
def debug {ε : Type} (expr : ε → String) : Statement ε → String
  | bind id e => "Bind(" ++ id.debug ++ ", " ++ expr e ++ ")"
  | effect e => "Effect(" ++ expr e ++ ")"

end Statement

namespace Block

/-- The block of a compilation as diagnostics show it. -/
def debug {ε : Type} (expr : ε → String) (b : Block ε) : String :=
  debugRecord "Scope"
    ["fragments: " ++ debugList (b.fragments.map Fragment.debug),
      "statements: " ++ debugList (b.statements.map (Statement.debug expr))]

end Block

namespace Options

/-- The settings of a compilation as diagnostics show them. -/
def debug (o : Options) : String :=
  debugRecord "CompileOptions"
    ["line_offset: " ++ toString o.lineOffset, "ident_prefix: " ++ Text.quoteAll o.stem]

end Options

namespace State

/-- A state as diagnostics show it. -/
def debug {ε : Type} (expr : ε → String) (s : State ε) : String :=
  debugRecord "CompileState"
    ["scope: " ++ s.scope.debug expr, "counter: " ++ toString s.counter,
      "options: " ++ s.options.debug, ".."]

end State

end TextTemplate
