import TextTemplate.Code.Grammar.Type

/-!
# Generic parameters

What is declared may depend on lifetimes, types and constants. They are named in angle brackets, and
what they have to satisfy is said there or after `where`.

- `boundList`: the bounds after a colon.
- `parameterRule`: one parameter.
- `generics`: the parameters in angle brackets. Empty brackets are not written.
- `whereClause`: further demands. A `where` without a demand is not written.
-/

namespace TextTemplate

namespace Grammar

/-! ## Bounds after a colon -/

/-- Bounds with plus signs between them, up to what ends them; the answer is whether there are any.
A strict list needs a plus or its end after every bound. -/
def boundList (self : Rules) (ends : Code → Bool) (strict consts : Bool) : Parser Bool :=
  several false fun found => do
    if ← ask ends then return (found, false)
    let _ ← bound self false consts
    if strict then
      if ← ask ends then return (true, false)
      sign "+"
      return (true, true)
    return (true, ← sign? "+")

/-- Lifetimes with plus signs between them, up to what ends them; the answer is whether there are
any. -/
def lifetimeList (ends : Code → Bool) : Parser Bool :=
  several false fun found => do
    if ← ask ends then return (found, false)
    lifetime
    return (true, ← sign? "+")

/-- A colon and what it introduces, if there is one. A colon that introduces nothing is not
written. -/
def afterColon (list : Parser Bool) : Parser Unit := do
  let before := (← get).done
  if ← sign? ":" then
    if !(← list) then modify fun i => { i with done := before }

/-! ## Parameters -/

/-- Whether the bounds of a parameter are over. -/
def endsParameter (code : Code) : Bool :=
  code.isEmpty || startsSign [','] code || startsSign ['>'] code

/-- A lifetime as a parameter. -/
def lifetimeParameter : Parser Unit := do
  lifetime
  afterColon (lifetimeList endsParameter)

/-- A type as a parameter, with its bounds and the type that is taken if none is given. -/
def typeParameter (self : Rules) : Parser Unit := do
  identifier
  afterColon (boundList self (fun code => endsParameter code || startsSign ['='] code) false true)
  if ← sign? "=" then self.type

/-- A constant as a parameter, with its type and the value that is taken if none is given. -/
def constParameter (self : Rules) : Parser Unit := do
  keyword "const"
  identifier
  sign ":"
  self.type
  if ← sign? "=" then constArgument self

/-- A parameter that a type or a closure introduces for itself. -/
def parameterRule (self : Rules) : Parser Shape := do
  let _ ← attributes self
  let code := (← get).tokens
  if startsIdentifier code then typeParameter self
  else if startsLifetime code then lifetimeParameter
  else if startsWord "const" code then constParameter self
  else refuse [.identifier, .lifetime, .keyword "const"]
  return .plain

/-- A parameter of a declaration, of which the name may be left out; the answer is whether it is a
lifetime. -/
def genericParameter (self : Rules) : Parser Bool := do
  let _ ← attributes self
  let code := (← get).tokens
  if startsLifetime code then
    lifetimeParameter
    return true
  else if startsIdentifier code then typeParameter self
  else if startsWord "const" code then constParameter self
  else if startsWord "_" code then anyWord
  else refuse [.lifetime, .identifier, .keyword "const"]
  return false

/-- The parameters of a declaration; the answer is whether there are angle brackets. -/
def generics (self : Rules) : Parser Bool := do
  if !(← sees "<") then return false
  let before := (← get).done
  if !(← angled (genericParameter self) (sign ",")) then modify fun i => { i with done := before }
  return true

/-! ## Demands -/

/-- Whether the demands after `where` are over. -/
def endsDemands (code : Code) : Bool :=
  code.isEmpty || startsGroup .brace code || startsSign [','] code || startsSign [';'] code ||
    (startsSign [':'] code && !startsSign [':', ':'] code) || startsSign ['='] code

/-- One demand: what a lifetime outlives, or what a type satisfies. -/
def demand (self : Rules) : Parser Unit := do
  if ← ask fun code => startsLifetime code && startsSign [':'] (afterTree code) then
    lifetime
    sign ":"
    let _ ← lifetimeList fun code => endsDemands code || startsSign [':'] code
  else
    let _ ← binder self
    self.type
    sign ":"
    let _ ← boundList self endsDemands false true

/-- The demands after `where`; the answer is whether there is that word. -/
def whereClause (self : Rules) : Parser Bool := do
  let before := (← get).done
  if !(← keyword? "where") then return false
  if ← ask startsGenerics then throw .parametersOnWhere
  let found ← several false fun found => do
    if ← ask endsDemands then return (found, false)
    demand self
    return (true, ← sign? ",")
  if !found then modify fun i => { i with done := before }
  return true

end Grammar

end TextTemplate
