import TextTemplate.Code.Grammar.Declaration
import TextTemplate.Code.Grammar.Expression

/-!
# Statements

- `letStatement`: the binding of a pattern, with the semicolon that ends it.
- `macroStart`: how the call of a macro begins a statement.
- `statementsRule`: the statements of a block. Only the last expression may lack its semicolon,
  unless it ends in its own braces.
-/

namespace TextTemplate

namespace Grammar

/-- Whether the last token that was read is a group in braces. -/
def endsInBraces : Parser Bool := do
  return startsGroup .brace (← get).done

/-- The binding of a pattern. A block for the case that the pattern does not match may follow a
value that does not itself end in a brace. -/
def letStatement (self : Rules) : Parser Unit := do
  keyword "let"
  self.pattern
  if ← sign? ":" then self.type
  if ← sign? "=" then
    self.expression
    if !(← endsInBraces) && (← seesWord "else") then
      keyword "else"
      self.block
  sign ";"

/-- How the call of a macro begins a statement. -/
inductive MacroStart
  /-- There is none, or it is an expression. -/
  | other
  /-- The macro is called with the name of what it makes: the statement is a declaration. -/
  | named
  /-- The call is in braces and nothing trails it: the statement is over after them. -/
  | braced
deriving DecidableEq, Repr

/-- Whether the statement is a macro call of its own, and of which form. -/
def macroStart : Parser MacroStart := do
  match plainPath.run (← get) with
  | .error _ => return .other
  | .ok (_, after) =>
    let next := afterTree after.tokens
    let third := afterTree next
    if !startsSign ['!'] after.tokens then return .other
    if startsIdentifier next || startsWord "try" next then return .named
    let trailed :=
      (startsSign ['.'] third && !startsSign ['.', '.'] third) || startsSign ['?'] third
    return if startsGroup .brace next && !trailed then .braced else .other

/-- One statement of a block; the answer is whether something has to end it. -/
def statement (self : Rules) : Parser Bool := do
  let before ← get
  let _ ← attributes self
  let call ← macroStart
  if call = .braced then
    plainPath
    sign "!"
    let _ ← anyGroup
    let _ ← sign? ";"
    return false
  if ← seesWord "let" then
    letStatement self
    return false
  if call = .named || (← ask startsDeclaration) then
    if ← declarationKind self then keepAsStood before
    return false
  let shape ← statementExpression self
  if ← sign? ";" then return false
  return shape ≠ .block && shape ≠ .bracedCall

/-- The statements of a block. -/
def statementsRule (self : Rules) : Parser Shape := do
  several () fun _ => do
    while? (sees ";") (sign ";")
    if ← atEnd then return ((), false)
    let open? ← statement self
    -- The last statement is the value of the block and needs no end.
    if ← atEnd then return ((), false)
    if open? then throw .noSemicolon
    return ((), true)
  return .plain

end Grammar

end TextTemplate
