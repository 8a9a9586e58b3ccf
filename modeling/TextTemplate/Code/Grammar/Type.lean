import TextTemplate.Code.Grammar.Path

/-!
# Types

- `callConvention`: the word `extern` and the name of a convention.
- `parenType`, `functionType`, `pathType`, `objectType`: the kinds of types.
- `typeRule`: a type. Where a plus sign may follow, several bounds make one type.
-/

namespace TextTemplate

namespace Grammar

/-! ## Kinds of types -/

/-- Bounds after the first, each with its plus sign. -/
def moreBounds (self : Rules) : Parser Unit :=
  while? (sees "+") do
    sign "+"
    let _ ← bound self false false

/-- Bounds as the type of an object. One of them has to be a trait. -/
def objectType (self : Rules) (plus : Bool) : Parser Shape := do
  if !(← bounds self plus false false) then throw .noTraitInObject
  return .plain

/-- The inside of parentheses as a type. -/
def parenInside (self : Rules) : Parser Shape := do
  if ← atEnd then return .plain
  if ← ask startsLifetime then return ← objectType self true
  if ← sees "?" then
    let _ ← traitBound self false
    return .maybeBound
  let shape ← self (.type true)
  if ← sign? "," then
    listed self.type
    return .plain
  return shape

/-- A type in parentheses, a tuple, or bounds of which the first is in parentheses. -/
def parenType (self : Rules) (plus : Bool) : Parser Shape :=
  groupThen .paren (parenInside self) fun first => do
    -- The first bound of a sum may stand in parentheses if it is no sum itself.
    let mayBeFirst := first = .typeName || first = .typePath || first = .singleBound
    if first = .maybeBound || (plus && mayBeFirst) then moreBounds self
    return .plain

/-- The word `extern` and the name of a convention in quotes, which may be missing. -/
def callConvention : Parser Unit := do
  if ← keyword? "extern" then
    if ← ask startsText then literal

/-- A parameter in the type of a function: a type, perhaps with a name. The first may be a
receiver. -/
def parameterType (self : Rules) (first : Bool) : Parser Unit := do
  let before ← get
  let mutable := startsWord "mut" before.tokens && startsWord "self" (afterTree before.tokens)
  let marked ← if first && mutable then keyword? "mut" else pure false
  let code := (← get).tokens
  let next := afterTree code
  let receiver := first && startsWord "self" code
  let named := (startsIdentifier code || startsWord "_" code || receiver) &&
    startsSign [':'] next && !startsSign [':', ':'] next
  if named then
    anyWord
    sign ":"
  let code := (← get).tokens
  let late := startsWord "mut" code && startsWord "self" (afterTree code)
  if first && !(named && receiver) && late then
    keyword "mut"
    keyword "self"
    keepAsStood before
  else if marked && !named then
    keyword "self"
    keepAsStood before
  else
    self.type
    if marked then keepAsStood before

/-- The parameters in the type of a function. Three points stand for further parameters, and only a
comma may follow. -/
def parameterTypes (self : Rules) : Parser Unit := do
  let _ ← several true fun first => do
    if ← atEnd then return (first, false)
    let _ ← attributes self
    let code := (← get).tokens
    let next := afterTree code
    let named := (startsIdentifier code || startsWord "_" code) && startsSign [':'] next
    if startsSign ['.', '.', '.'] code ||
        (named && startsSign ['.', '.', '.'] (afterTree next)) then
      if named then
        anyWord
        sign ":"
      sign "..."
      let _ ← sign? ","
      return (false, false)
    parameterType self first
    if ← atEnd then return (false, false)
    sign ","
    return (false, true)

/-- A type of functions. -/
def functionType (self : Rules) : Parser Shape := do
  let _ ← keyword? "unsafe"
  callConvention
  keyword "fn"
  groupThen .paren (parameterTypes self) fun _ => result self
  return .plain

/-- A path as a type; the path of a macro may be followed by its call, and bounds may follow where a
plus sign is allowed. -/
def pathType (self : Rules) (plus introduced : Bool) : Parser Shape := do
  let form ← qualifiedPath self false
  if form.qualified then return .plain
  if (← sees "!") && !(← sees "!=") && form.bare then
    sign "!"
    let _ ← anyGroup
    return .plain
  if introduced || (plus && (← sees "+")) then
    let many ← several false fun many => do
      if plus && (← sign? "+") then
        if ← seesBound false then
          let _ ← bound self false false
          return (true, true)
        return (true, false)
      return (many, false)
    return if many then .plain else .singleBound
  return if !form.global && form.names == 1 then .typeName else .typePath

/-- A type. -/
def typeRule (self : Rules) (plus : Bool) : Parser Shape := do
  let introduced ← binder self
  let code := (← get).tokens
  let isPath := startsPathWord code
  let isFunction := startsWord "fn" code || startsWord "unsafe" code || startsWord "extern" code
  if introduced && !isPath && !isFunction then
    refuse [.identifier, .keyword "fn", .keyword "unsafe", .keyword "extern", .keyword "super",
      .keyword "self", .keyword "Self", .keyword "crate"]
  if startsGroup .paren code then parenType self plus
  else if isFunction then functionType self
  else if isPath || startsSign [':', ':'] code || startsSign ['<'] code then
    pathType self plus introduced
  else if startsWord "dyn" code then
    let before ← get
    keyword "dyn"
    let starred ← sign? "*"
    let shape ← objectType self plus
    if starred then keepAsStood before
    return shape
  else if startsGroup .bracket code then
    group .bracket do
      self.type
      if ← sign? ";" then self.expression
    return .plain
  else if startsSign ['*'] code then
    sign "*"
    if ← keyword? "const" then self.typeNoSum
    else if ← keyword? "mut" then self.typeNoSum
    else refuse [.keyword "const", .keyword "mut"]
    return .plain
  else if startsSign ['&'] code then
    sign "&"
    let _ ← lifetime?
    let _ ← keyword? "mut"
    self.typeNoSum
    return .plain
  else if startsSign ['!'] code then
    sign "!"
    return .plain
  else if startsWord "impl" code then
    keyword "impl"
    if !(← bounds self plus true true) then throw .noTraitInBounds
    return .plain
  else if startsWord "_" code then
    skip
    return .plain
  else if startsLifetime code then objectType self true
  else
    refuse [.keyword "for", .group .paren, .keyword "fn", .keyword "unsafe", .keyword "extern",
      .identifier, .sign "::", .sign "<", .keyword "dyn", .group .bracket, .sign "*", .sign "&",
      .sign "!", .keyword "impl", .keyword "_", .lifetime]

end Grammar

end TextTemplate
