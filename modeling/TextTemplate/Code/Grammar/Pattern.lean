import TextTemplate.Code.Grammar.Type
import TextTemplate.Code.Number

/-!
# Patterns

- `member`: the name or the number of a field.
- `rangeEnd`: what may bound a range pattern.
- `patternRule`: a pattern without alternatives at the top.
-/

namespace TextTemplate

namespace Grammar

/-! ## Fields -/

/-- Whether a text is that of an integer literal. -/
def isInteger (text : String) : Bool :=
  (Number.parts? text.toList).isSome

/-- The largest number of a field: it has 32 bits. -/
def lastField : Nat := 0xffffffff

/-- The number of a field, from the text of an integer literal: it has no suffix and is not too
large. -/
def fieldIndex (text : String) : Parser Nat :=
  match Number.parts? text.toList with
  | none => throw (.expected false [.integerLiteral])
  | some (n, suffix) =>
    if !suffix.isEmpty then throw (.expected false [.unsuffixedInteger])
    else if n ≤ lastField then return n
    else throw (.number .tooLarge)

/-- The number of a field after a minus: what is wrong with the literal itself is reported first. -/
def negativeIndex {α : Type} (text : String) : Parser α := do
  if let some (_, suffix) := Number.parts? text.toList then
    if !suffix.isEmpty then throw (.expected false [.unsuffixedInteger])
    throw (.number .notDigits)
  throw (.expected false [.integerLiteral])

/-- The number of a field as it is written. -/
def indexCode (n : Nat) : Code := [.literal (toString n)]

/-- The name or number of a field; the answer is whether it is a name. -/
def member : Parser Bool := do
  match (← get).tokens with
  | .word w :: _ =>
    if keywords.contains w then refuse [.member]
    skip
    return true
  | .literal text :: _ =>
    if !isInteger text then refuse [.member]
    let n ← fieldIndex text
    let _ ← captured skip
    emit (indexCode n)
    return false
  | .mark '-' _ :: .literal text :: _ =>
    if !isInteger text then refuse [.member]
    negativeIndex text
  | _ => refuse [.member]

/-! ## Ranges -/

/-- The operator of a range in an expression; the answer is whether the end is included. Three
points are no longer allowed. -/
def rangeLimits : Parser Bool := do
  if ← sign? "..=" then return true
  if ← sees "..." then refuse [.sign "..="]
  if ← sign? ".." then return false
  refuse [.sign ".."]

/-- The operator of a range in a pattern, where three points still mean that the end is included;
they are written as `..=`. -/
def patternLimits : Parser Bool := do
  if ← sign? "..=" then return true
  if ← sees "..." then
    let _ ← captured (sign "...")
    emit (Code.joined "..=".toList)
    return true
  sign ".."
  return false

/-- The bound of a range pattern, if there is one. -/
def rangeEnd (self : Rules) : Parser Bool := do
  let code := (← get).tokens
  if code.isEmpty || startsSign ['|'] code || startsSign ['='] code ||
      (startsSign [':'] code && !startsSign [':', ':'] code) || startsSign [','] code ||
      startsSign [';'] code || startsWord "if" code then
    return false
  if startsLiteral code then
    literal
    return true
  if startsPathWord code || startsSign [':', ':'] code || startsSign ['<'] code then
    let _ ← attributes self
    let _ ← qualifiedPath self true
    return true
  if ← keyword? "const" then
    attributedBlock self
    return true
  refuse [.literal, .identifier, .sign "::", .sign "<", .keyword "self", .keyword "Self",
    .keyword "super", .keyword "crate", .keyword "const"]

/-- The operator of a range pattern after its first bound, and the second bound. -/
def rangeTail (self : Rules) : Parser Shape := do
  let closed ← patternLimits
  if ← rangeEnd self then return .plain
  if closed then refuse [.upperBound]
  return .openRange

/-! ## Kinds of patterns -/

/-- A pattern that begins with a path: the path itself, a macro call, the pattern of a struct or of
a tuple struct, or a range. -/
def pathPattern (self : Rules) : Parser Shape := do
  let form ← qualifiedPath self true
  if !form.qualified && (← sees "!") && !(← sees "!=") && form.bare then
    sign "!"
    let _ ← anyGroup
    return .plain
  if ← seesGroup .brace then
    group .brace <| several () fun _ => do
      if ← atEnd then return ((), false)
      let _ ← attributes self
      if ← sign? ".." then return ((), false)
      field
      if ← atEnd then return ((), false)
      sign ","
      return ((), true)
    return .plain
  if ← seesGroup .paren then
    group .paren (listed do let _ ← self.alternatives)
    return .plain
  if ← sees ".." then rangeTail self
  else return .plain
where
  /-- A field of the pattern of a struct. -/
  field : Parser Unit := do
    let before ← get
    let boxed ← keyword? "box"
    let byRef ← keyword? "ref"
    let mutable ← keyword? "mut"
    let marked := boxed || byRef || mutable
    let named ← if marked then do
      identifier
      pure true
    else member
    if (!marked && (← sees ":")) || !named then
      sign ":"
      let _ ← self.alternatives
    if boxed then keepAsStood before

/-- A pattern that binds a name. -/
def namePattern (self : Rules) : Parser Shape := do
  let _ ← keyword? "ref"
  let _ ← keyword? "mut"
  if ← seesWord "self" then anyWord else identifier
  if ← sign? "@" then self.pattern
  return .plain

/-- A pattern without alternatives at the top. -/
def patternRule (self : Rules) : Parser Shape := do
  let code := (← get).tokens
  let next := afterTree code
  if (startsIdentifier code && (startsSign [':', ':'] next || startsSign ['!'] next ||
        startsGroup .brace next || startsGroup .paren next || startsSign ['.', '.'] next)) ||
      (startsWord "self" code && startsSign [':', ':'] next) || startsSign [':', ':'] code ||
      startsSign ['<'] code || startsWord "Self" code || startsWord "super" code ||
      startsWord "crate" code then
    pathPattern self
  else if startsWord "_" code then
    skip
    return .plain
  else if startsWord "box" code then
    asStood do
      keyword "box"
      self.pattern
    return .plain
  else if startsSign ['-'] code || startsLiteral code || startsWord "const" code then
    let _ ← rangeEnd self
    if ← sees ".." then rangeTail self
    else return .plain
  else if startsWord "ref" code || startsWord "mut" code || startsWord "self" code ||
      startsIdentifier code then
    namePattern self
  else if startsSign ['&'] code then
    sign "&"
    let _ ← keyword? "mut"
    self.pattern
    return .plain
  else if startsGroup .paren code then
    group .paren (listed do let _ ← self.alternatives)
    return .plain
  else if startsGroup .bracket code then
    group .bracket <| listed do
      if (← self.alternatives) = .openRange then throw .openRangeInSlice
    return .plain
  else if startsSign ['.', '.'] code && !startsSign ['.', '.', '.'] code then
    let closed ← rangeLimits
    if ← rangeEnd self then return .openRange
    if closed then refuse [.upperBound]
    return .plain
  else
    -- Three points begin like a range, so that a range is not what is missing.
    let range := if startsSign ['.', '.', '.'] code then [] else [Wanted.sign ".."]
    refuse ([.identifier, .sign "::", .sign "<", .keyword "_", .literal, .keyword "const",
      .keyword "ref", .keyword "mut", .sign "&", .group .paren, .group .bracket] ++ range ++
      [.keyword "const"])

end Grammar

end TextTemplate
