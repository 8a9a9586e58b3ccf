import TextTemplate.Code.Grammar.Declaration.Signature
import TextTemplate.Code.Grammar.Declaration.Visibility

/-!
# Members

What stands in the braces of a trait, of an implementation or of a foreign block. The grammar takes
more than can be meant: what cannot be meant is kept as it stood.

- `constantBody`, `typeBody`, `macroBody`: what the members have in common with declarations.
- `traitMember`, `implMember`, `foreignMember`: one member of each.
-/

namespace TextTemplate

namespace Grammar

/-! ## Parts that members share with declarations -/

/-- A constant from its name on; the answer is whether it has a value, and whether it has neither
parameters nor demands. Some other words may be wanted in place of the name. -/
def constantBody (self : Rules) (others : List Wanted) : Parser (Bool × Bool) := do
  if ← ask fun code => startsIdentifier code || startsWord "_" code then anyWord
  else refuse ([.identifier, .keyword "_"] ++ others)
  let general ← generics self
  sign ":"
  self.type
  let valued ← sign? "="
  if valued then self.expression
  let demanding ← whereClause self
  sign ";"
  return (valued, !general && !demanding)

/-- Where a declaration of a type says what it demands: before what it stands for, after it, or at
either place. -/
inductive DemandPlace
  | before
  | after
  | either
deriving DecidableEq, Repr

/-- A type from its visibility on; the answer is whether it has a colon, and whether it stands for
another type. -/
def typeBody (self : Rules) (mayBeDefault : Bool) (place : DemandPlace) : Parser (Bool × Bool) := do
  let _ ← visibility
  if mayBeDefault then
    let _ ← keyword? "default"
  keyword "type"
  identifier
  let _ ← generics self
  let bounded ← sees ":"
  let ends (code : Code) : Bool :=
    startsWord "where" code || startsSign ['='] code || startsSign [';'] code
  afterColon (boundList self ends true true)
  let early ← if place = .after then pure false else whereClause self
  let defined ← sign? "="
  if defined then self.type
  if place ≠ .before && !early then
    let _ ← whereClause self
  sign ";"
  return (bounded, defined)

/-- Whether the call of a macro may begin here. -/
def startsMacroCall (code : Code) : Bool :=
  startsIdentifier code || ["self", "super", "crate"].any (startsWord · code) ||
    startsSign [':', ':'] code

/-- What is wanted where the call of a macro could begin. -/
def macroCallStarts : List Wanted :=
  [.identifier, .keyword "self", .keyword "super", .keyword "crate", .sign "::"]

/-- The call of a macro, perhaps with the name of what it makes. It ends in braces or a
semicolon. -/
def macroBody (named : Bool) : Parser Unit := do
  plainPath
  sign "!"
  if named && (← ask fun code => startsIdentifier code || startsWord "try" code) then anyWord
  if !(← anyGroup) then sign ";"

/-! ## Members -/

/-- A member of a trait. -/
def traitMember (self : Rules) : Parser Unit := do
  let before ← get
  let _ ← attributes self
  let visible ← visibility
  let isDefault ← keyword? "default"
  let code := (← get).tokens
  let next := afterTree code
  let function : Parser Unit := do
    let _ ← signature self false
    if ← seesGroup .brace then attributedBlock self
    else if !(← sign? ";") then refuse [.group .brace, .sign ";"]
  let plain ←
    if startsSignature false code then
      function
      pure true
    else if startsWord "const" code then
      let qualifiers := ["async", "unsafe", "extern", "fn"]
      if qualifiers.any (startsWord · next) then
        function
        pure true
      else
        keyword "const"
        pure (← constantBody self (qualifiers.map .keyword)).2
    else if startsWord "type" code then
      let _ ← typeBody self false .after
      pure true
    else if !visible && !isDefault && startsMacroCall code then
      macroBody false
      pure true
    else
      refuse ([.keyword "fn", .keyword "const", .keyword "type"] ++
        if visible || isDefault then [] else macroCallStarts)
  if visible || isDefault || !plain then keepAsStood before

/-- A member of an implementation. -/
def implMember (self : Rules) : Parser Unit := do
  let before ← get
  let _ ← attributes self
  let start ← get
  let visible ← visibility
  let maybeDefault ← seesWord "default"
  let isDefault := maybeDefault && !startsSign ['!'] (afterTree (← get).tokens)
  if isDefault then skip
  let code := (← get).tokens
  let plain ←
    if startsSignature false code then
      let _ ← signature self false
      if ← sign? ";" then pure false
      else
        attributedBlock self
        pure true
    else if startsWord "const" code then
      keyword "const"
      let (valued, simple) ← constantBody self []
      pure (valued && simple)
    else if startsWord "type" code then
      set start
      let (bounded, defined) ← typeBody self true .after
      pure (!bounded && defined)
    else if !visible && !isDefault && startsMacroCall code then
      macroBody false
      pure true
    else
      refuse ((if maybeDefault then [] else [.keyword "default"]) ++
        [.keyword "fn", .keyword "const", .keyword "type"] ++
        if visible || isDefault then [] else macroCallStarts)
  if !plain then keepAsStood before

/-- A member of a foreign block: something that is declared here and defined elsewhere. -/
def foreignMember (self : Rules) : Parser Unit := do
  let before ← get
  let _ ← attributes self
  let start ← get
  let visible ← visibility
  let code := (← get).tokens
  let next := afterTree code
  let plain ←
    if startsSignature true code then
      let safe ← signature self true
      if ← seesGroup .brace then
        attributedBlock self
        pure false
      else
        sign ";"
        pure !safe
    else if startsWord "static" code ||
        ((startsWord "unsafe" code || startsWord "safe" code) && startsWord "static" next) then
      let qualified ← if startsWord "static" code then pure false else
        anyWord
        pure true
      keyword "static"
      let _ ← keyword? "mut"
      identifier
      sign ":"
      self.type
      let valued ← sign? "="
      if valued then self.expression
      sign ";"
      pure (!qualified && !valued)
    else if startsWord "type" code then
      set start
      let (bounded, defined) ← typeBody self false .either
      pure (!bounded && !defined)
    else if !visible && startsMacroCall code then
      macroBody false
      pure true
    else
      refuse ([.keyword "fn", .keyword "static", .keyword "type"] ++
        if visible then [] else macroCallStarts)
  if !plain then keepAsStood before

end Grammar

end TextTemplate
