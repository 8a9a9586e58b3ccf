import TextTemplate.Code.Grammar.Statement
import TextTemplate.Code.Source

/-!
# The grammar of the embedded code

The rules of the single kinds are tied together here. A piece of code of `n` tokens is read with a
depth of nested rules that is bounded by a multiple of `n`, since no chain of rules is long without
taking a token.

- `read`: the reader of every kind, for a given depth.
- `checkExpression`, `checkPattern`, `checkLet`: whether a whole piece of code is of a kind.
- `readPath`, `pathOfText`: a whole piece of code or text read as a path, written in the form in
  which code is made.
-/

namespace TextTemplate

namespace Grammar

/-- The rule of each kind of code. -/
def rule (self : Rules) : Rules
  | .expression structs => expressionRule self structs
  | .operand structs => operandRule self structs
  | .operators structs base left => operatorsRule self structs base left
  | .statementExpression => statementExpression self
  | .statements => statementsRule self
  | .pattern => patternRule self
  | .type plus => typeRule self plus
  | .arguments => argumentList self
  | .parameter => parameterRule self
  | .declaration => declarationRule self
  | .fields => fieldsRule self
  | .imports root => importsRule self root

/-- The reader of every kind of code with at most `depth` rules inside one another. -/
def read : (depth : Nat) → Rules
  | 0, _ => throw .tooDeep
  | depth + 1, kind => rule (read depth) kind

/-- A depth that no piece of code of this size exceeds. -/
def depthFor (code : Code) : Nat := 16 * (code.size + 1)

/-- Checks that code is one expression. -/
def checkExpression (code : Code) : Except Complaint Unit :=
  (read (depthFor code) (.expression true)).all code |>.map fun _ => ()

/-- Checks that code is one pattern, without alternatives at the top. -/
def checkPattern (code : Code) : Except Complaint Unit :=
  (read (depthFor code) .pattern).all code |>.map fun _ => ()

/-- Checks that code is one statement that binds a pattern. -/
def checkLet (code : Code) : Except Complaint Unit :=
  (letStatement (read (depthFor code))).all code |>.map fun _ => ()

/-- Reads code as a path; what comes back is the path as it is written in code that is made. -/
def readPath (code : Code) : Except Complaint Code :=
  (path (read (depthFor code)) false).all code |>.map fun (_, written) => written

/-- The token trees of a text, with the complaint for a text that has none. -/
def split (s : List Char) : Except Complaint Code :=
  match Code.ofChars? s with
  | some code => .ok code
  | none => .error .unsplit

/-- Reads a text as a path. -/
def pathOfText (s : String) : Except Complaint Code := do
  readPath (← split s.toList)

end Grammar

end TextTemplate
