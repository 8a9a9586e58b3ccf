import TextTemplate.Code.Grammar.Generic
import TextTemplate.Code.Grammar.Pattern

/-!
# Signatures of functions

- `startsSignature`: whether the words that qualify a function, and the word `fn`, come next.
- `receiver`: the value on which a method is called.
- `functionParameters`: what a function is called with.
- `signature`: everything about a function but its body.
-/

namespace TextTemplate

namespace Grammar

/-! ## The front of a signature -/

/-- The code after a word, if it starts with that word. -/
def afterWord (name : String) (code : Code) : Code :=
  if startsWord name code then afterTree code else code

/-- Whether a function is declared here; the word `safe` may be among those that qualify it or
not. -/
def startsSignature (safe : Bool) (code : Code) : Bool :=
  let code := afterWord "async" (afterWord "const" code)
  let code :=
    if safe && startsWord "safe" code then afterTree code else afterWord "unsafe" code
  if startsWord "extern" code then
    let next := afterTree code
    startsWord "fn" (if startsText next then afterTree next else next)
  else startsWord "fn" code

/-! ## Parameters -/

/-- The value on which a method is called, perhaps by reference or with a type of its own. -/
def receiver (self : Rules) : Parser Unit := do
  let byRef ← sign? "&"
  if byRef then
    let _ ← lifetime?
  let _ ← keyword? "mut"
  keyword "self"
  if !byRef && (← sign? ":") then self.type

/-- The kinds of parameters. -/
inductive ParameterKind
  | receiver
  | typed
  | variadic
deriving DecidableEq, Repr

/-- One parameter. Where the pattern is left out, an underscore is written for it. -/
def functionParameter (self : Rules) : Parser ParameterKind := do
  if let .ok (_, after) := (receiver self).run (← get) then
    set after
    return .receiver
  if ← ask fun code => startsIdentifier code && startsSign ['<'] (afterTree code) then
    emit (.word "_" :: Code.joined [':'])
    self.type
    return .typed
  self.pattern
  sign ":"
  if ← sign? "..." then return .variadic
  self.type
  return .typed

/-- The parameters of a function. A receiver is the first of them, and three points, which stand for
further parameters, are the last. -/
def functionParameters (self : Rules) : Parser Unit := do
  let _ ← several (none : Option ParameterKind) fun first => do
    if ← atEnd then return (first, false)
    let _ ← attributes self
    let kind ← if ← sign? "..." then pure .variadic else functionParameter self
    if kind = .receiver then
      if first = some .receiver then throw .secondReceiver
      if first.isSome then throw .lateReceiver
    if ← atEnd then return (first, false)
    sign ","
    return (first.or (some kind), kind ≠ .variadic)

/-! ## Signatures -/

/-- Everything about a function but its body; the answer is whether it is called safe. -/
def signature (self : Rules) (safe : Bool) : Parser Bool := do
  let _ ← keyword? "const"
  let _ ← keyword? "async"
  let isUnsafe ← keyword? "unsafe"
  let isSafe ← if safe && !isUnsafe then keyword? "safe" else pure false
  callConvention
  keyword "fn"
  identifier
  let _ ← generics self
  groupThen .paren (functionParameters self) fun _ => do
    if ← sign? "->" then self.type
    let _ ← whereClause self
    return isSafe

end Grammar

end TextTemplate
