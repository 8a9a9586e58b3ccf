import TextTemplate.Code.Grammar.Attribute

/-!
# Paths

A path is a sequence of names with `::` between them; a name may have arguments. In an expression
the arguments need a `::` of their own before the angle bracket, elsewhere they do not.

- `PathForm`: what other rules depend on in a path.
- `path`, `qualifiedPath`: a path, and one that may begin with a type in angle brackets.
- `bound`, `bounds`: what a type may be asked to satisfy.
- `angled`: a list in angle brackets; lifetimes are written first.
- `argumentList`: arguments in angle brackets.
-/

namespace TextTemplate

namespace Grammar

/-- The arguments of a name in a path. -/
inductive NameArguments
  | absent
  | empty
  | given
deriving DecidableEq, Repr

/-- What other rules depend on in a path. -/
structure PathForm where
  /-- Whether it begins with a type in angle brackets. -/
  qualified : Bool
  /-- Whether it begins with `::`. -/
  global : Bool
  /-- The number of names. -/
  names : Nat
  /-- Whether no name has arguments, not even empty ones. -/
  bare : Bool
  /-- The arguments of the last name. -/
  last : NameArguments

/-- A path goes on with a name. -/
def PathForm.push (form : PathForm) (arguments : NameArguments) : PathForm :=
  { form with
    names := form.names + 1
    bare := form.bare && arguments = .absent
    last := arguments }

/-! ## Paths with arguments -/

/-- A name with its arguments. -/
def pathName (self : Rules) (inExpression : Bool) : Parser NameArguments := do
  if ← ask fun code => startsWord "super" code || startsWord "self" code ||
      startsWord "crate" code || startsWord "try" code then
    anyWord
    return .absent
  if ← seesWord "Self" then anyWord else identifier
  let code := (← get).tokens
  let angle := startsSign ['<'] code && !startsSign ['<', '='] code &&
    !startsSign ['<', '<', '='] code
  let turbofish := startsSign [':', ':'] code && startsSign ['<'] (afterTree (afterTree code))
  if (!inExpression && angle) || turbofish then
    let _ ← sign? "::"
    let isEmpty ← ask fun code => startsSign ['>'] (afterTree code)
    self.arguments
    return if isEmpty then .empty else .given
  return .absent

/-- The names of a path after those that have been read. A parenthesis after `::` belongs to
arguments. -/
def pathRest (self : Rules) (inExpression : Bool) (form : PathForm) : Parser PathForm :=
  several form fun form => do
    let code := (← get).tokens
    if startsSign [':', ':'] code && !startsGroup .paren (afterTree (afterTree code)) then
      sign "::"
      return (form.push (← pathName self inExpression), true)
    return (form, false)

/-- A path. -/
def path (self : Rules) (inExpression : Bool) : Parser PathForm := do
  let global ← sign? "::"
  let form : PathForm := ⟨false, global, 0, true, .absent⟩
  let first ← pathName self inExpression
  pathRest self inExpression (form.push first)

/-- A path that may begin with a type in angle brackets, perhaps as seen through a trait. -/
def qualifiedPath (self : Rules) (inExpression : Bool) : Parser PathForm := do
  if ← sign? "<" then
    self.type
    if ← keyword? "as" then
      let _ ← path self false
    sign ">"
    sign "::"
    several (⟨true, false, 0, true, .absent⟩ : PathForm) fun form => do
      let form := form.push (← pathName self inExpression)
      return (form, ← sign? "::")
  else path self inExpression

/-! ## Lists in angle brackets -/

/-- An item of a list in angle brackets as it was read. -/
structure AngleItem where
  lifetime : Bool
  code : Code
  comma : Bool

/-- The items of a list as they are written: lifetimes first. -/
def AngleItem.write (items : List AngleItem) : Code :=
  let (lifetimes, others) := items.partition (·.lifetime)
  let one (a : AngleItem) : Code := a.code ++ if a.comma then Code.joined [','] else []
  -- A comma is put between two items that come together only here.
  let step (state : Code × Bool) (a : AngleItem) : Code × Bool :=
    (state.1 ++ (if state.2 then [] else Code.joined [',']) ++ one a, a.comma)
  let closed := match lifetimes.getLast? with
    | some a => a.comma
    | none => true
  lifetimes.flatMap one ++ (others.foldl step ([], closed)).1

/-- Items in angle brackets with commas between them. An item says whether it is a lifetime; the
answer is whether there are any items. -/
def angled (item : Parser Bool) (comma : Parser Unit) : Parser Bool := do
  sign "<"
  let items ← several ([] : List AngleItem) fun done => do
    if ← sees ">" then return (done, false)
    let (lifetime, code) ← captured item
    if ← sees ">" then return (⟨lifetime, code, false⟩ :: done, false)
    let _ ← captured comma
    return (⟨lifetime, code, true⟩ :: done, true)
  emit (AngleItem.write items.reverse)
  sign ">"
  return !items.isEmpty

/-! ## Bounds -/

/-- Parameters that a type or a closure introduces for itself, as in `for<'a, T>`. -/
def binder (self : Rules) : Parser Bool := do
  if ← keyword? "for" then
    sign "<"
    several () fun _ => do
      if ← sees ">" then return ((), false)
      self.parameter
      if ← sees ">" then return ((), false)
      sign ","
      return ((), true)
    sign ">"
    return true
  return false

/-- Whether arguments in parentheses come next, perhaps after `::`. -/
def seesCallArguments : Parser Bool :=
  ask fun code => startsGroup .paren code ||
    (startsSign [':', ':'] code && startsGroup .paren (afterTree (afterTree code)))

/-- Arguments in parentheses and the type of a result. They stand in place of empty angle brackets,
and a `::` before them is not written. -/
def callArguments (self : Rules) : Parser Unit := do
  modify fun i => { i with done := i.done.dropWhile fun t => t matches .mark _ _ }
  let _ ← captured (sign? "::")
  group .paren (listed self.type)
  result self

/-- The mark of a bound that holds only for constants, always or where it is asked for; the answer
is whether there is one. -/
def constMark (allowed : Bool) : Parser Bool := do
  if ← seesGroup .bracket then
    group .bracket (keyword "const")
    if !allowed then throw .maybeConstBoundNotAllowed
    return true
  if ← keyword? "const" then
    if !allowed then throw .constBoundNotAllowed
    return true
  return false

/-- A trait as a bound, with what may stand before it; the answer is whether it is a bound for
constants. -/
def traitBound (self : Rules) (consts : Bool) : Parser Bool := do
  let before ← binder self
  let isConst ← constMark consts
  let maybe ← sign? "?"
  let after ← if maybe && !before then binder self else pure false
  let form ← path self false
  if form.last ≠ .given && (← seesCallArguments) then callArguments self
  if maybe && (before || after) then throw .binderOfMaybeBound
  return isConst

/-- What a type that is not named may use, as in `use<'a, T>`. -/
def capture : Parser Unit := do
  keyword "use"
  let item : Parser Bool := do
    if ← lifetime? then return true
    if ← ask fun code => startsIdentifier code || startsWord "Self" code then
      anyWord
      return false
    refuse [.lifetime, .identifier, .sign ">"]
  let comma : Parser Unit := do
    if !(← sign? ",") then refuse [.sign ",", .sign ">"]
  let _ ← angled item comma

/-- One bound; the answer is whether it is a trait. -/
def bound (self : Rules) (captures consts : Bool) : Parser Bool := do
  if ← lifetime? then return false
  if ← seesWord "use" then
    capture
    if captures then return false
    throw .capturesNotAllowed
  let before ← get
  let isConst ←
    if ← seesGroup .paren then group .paren (traitBound self consts) else traitBound self consts
  if isConst then keepAsStood before
  return true

/-- Whether another bound follows a plus. -/
def seesBound (consts : Bool) : Parser Bool :=
  ask fun code =>
    startsAnyWord code || startsSign [':', ':'] code || startsSign ['?'] code ||
      startsLifetime code || startsGroup .paren code || (consts && startsGroup .bracket code)

/-- Bounds with plus signs between them; the answer is whether one is a trait. -/
def bounds (self : Rules) (plus captures consts : Bool) : Parser Bool :=
  several false fun found => do
    let found := (← bound self captures consts) || found
    if plus && (← sign? "+") then return (found, ← seesBound consts)
    return (found, false)

/-! ## Arguments in angle brackets -/

/-- A value as an argument: a literal, the name of a constant, or a block. -/
def constArgument (self : Rules) : Parser Unit := do
  if ← ask startsLiteral then literal
  else if ← ask startsIdentifier then identifier
  else if ← seesGroup .brace then attributedBlock self
  else refuse []

/-- Whether a value comes next as an argument, and no type. -/
def seesConst : Parser Bool :=
  ask fun code => startsLiteral code || startsGroup .brace code

/-- One argument; the answer is whether it is a lifetime. -/
def argument (self : Rules) : Parser Bool := do
  let code := (← get).tokens
  if startsLifetime code && !startsSign ['+'] (afterTree code) then
    lifetime
    return true
  if ← seesConst then
    constArgument self
    return false
  let shape ← self (.type true)
  if shape = .typeName then
    if ← sign? "=" then
      if ← seesConst then constArgument self else self.type
    else if ← sign? ":" then
      several () fun _ => do
        if (← sees ",") || (← sees ">") then return ((), false)
        let _ ← bound self false true
        return ((), ← sign? "+")
  return false

/-- Arguments in angle brackets. -/
def argumentList (self : Rules) : Parser Shape := do
  let _ ← angled (argument self) (sign ",")
  return .plain

end Grammar

end TextTemplate
