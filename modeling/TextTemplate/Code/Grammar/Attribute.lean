import TextTemplate.Code.Grammar.Rules

/-!
# Attributes

What is noted about a piece of code stands before it, as in `#[cold]`, or at the front of the braces
that it has, as in `#![cold]`.

- `attributes`, `innerAttributes`: the attributes before a piece of code and those inside of it.
- `attributedBlock`: statements in braces with attributes at their front.
-/

namespace TextTemplate

namespace Grammar

/-- The inside of an attribute: a path and its arguments. -/
def attributeBody (self : Rules) : Parser Unit := do
  if !(← keyword? "unsafe") then plainPath
  if ← ask fun code => startsGroup .paren code || startsGroup .bracket code ||
      startsGroup .brace code then
    let _ ← anyGroup
  else if (← sees "=") && !(← sees "==") && !(← sees "=>") then
    sign "="
    if ← ask fun code => startsSign ['#'] code && startsGroup .bracket (afterTree code) then
      throw .attributeInAttribute
    self.expression

/-- Attributes of what follows; the answer is whether there are any. -/
def attributes (self : Rules) : Parser Bool :=
  several false fun found => do
    if ← sign? "#" then
      group .bracket (attributeBody self)
      return (true, true)
    return (found, false)

/-- Attributes of what encloses them. -/
def innerAttributes (self : Rules) : Parser Unit :=
  while? (ask fun code => startsSign ['#'] code && startsSign ['!'] (afterTree code)) do
    sign "#"
    sign "!"
    group .bracket (attributeBody self)

/-- A block with attributes of its own. -/
def attributedBlock (self : Rules) : Parser Unit :=
  group .brace do
    innerAttributes self
    let _ ← self .statements

end Grammar

end TextTemplate
