import TextTemplate.Code.Grammar.Attribute
import TextTemplate.Code.Grammar.Declaration.Visibility

/-!
# Imports

- `importsRule`: a tree of imports. Branches of a group may start at the root of all names, as long
  as nothing but braces stands before them.
- `useDeclaration`: the declaration of a tree of imports.
- `crateDeclaration`: the import of a library as a whole.
-/

namespace TextTemplate

namespace Grammar

/-- The other name after `as`, if there is one. -/
def renamed (wanted : Wanted) : Parser Unit := do
  if ← keyword? "as" then
    if ← ask fun code => startsIdentifier code || startsWord "_" code then anyWord
    else if wanted = .identifier then identifier
    else refuse [wanted]

/-- A tree of imports. -/
def importsRule (self : Rules) (root : Bool) : Parser Shape := do
  let code := (← get).tokens
  if startsIdentifier code ||
      ["self", "super", "crate", "try"].any (startsWord · code) then
    anyWord
    if ← sign? "::" then return ← self (.imports false)
    renamed .identifierOrUnderscore
    return .plain
  else if startsSign ['*'] code then
    sign "*"
    return .plain
  else if startsGroup .brace code then
    group .brace <| several Shape.plain fun shape => do
      if ← atEnd then return (shape, false)
      let rooted ← if root then sign? "::" else pure false
      let branch ← self (.imports (root && !rooted))
      let shape := if rooted || branch = .rooted then .rooted else shape
      if ← atEnd then return (shape, false)
      sign ","
      return (shape, true)
  else
    refuse [.identifier, .keyword "self", .keyword "super", .keyword "crate", .keyword "try",
      .sign "*", .group .brace]

/-- The declaration of a tree of imports; the answer is whether a branch inside of it starts at the
root of all names. -/
def useDeclaration (self : Rules) : Parser Bool := do
  let _ ← visibility
  keyword "use"
  let root ← sign? "::"
  let shape ← self (.imports (!root))
  sign ";"
  return shape = .rooted

/-- The import of a library as a whole. -/
def crateDeclaration : Parser Unit := do
  let _ ← visibility
  keyword "extern"
  keyword "crate"
  if ← seesWord "self" then anyWord else identifier
  renamed .identifier
  sign ";"

end Grammar

end TextTemplate
