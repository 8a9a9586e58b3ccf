import TextTemplate.Code.Grammar.Declaration.Data
import TextTemplate.Code.Grammar.Declaration.Import
import TextTemplate.Code.Grammar.Declaration.Member

/-!
# Declarations

A block may declare functions, types, constants and the like among its statements, and a module
declares nothing else.

- `startsDeclaration`: whether a statement is a declaration.
- `functionDeclaration`, `traitDeclaration`, `implDeclaration` and the like: the kinds of
  declarations.
- `declarationRule`: a declaration with its attributes. Its kind is told by its first words after
  the visibility.
-/

namespace TextTemplate

namespace Grammar

/-! ## The first words of a declaration -/

/-- The words of which each begins a declaration wherever it stands first. -/
def declaring : List String :=
  ["pub", "extern", "use", "fn", "mod", "type", "struct", "enum", "trait", "impl", "macro"]

/-- Whether a function is declared after the words that qualify it. -/
def qualifiesFunction (code : Code) : Bool :=
  startsWord "unsafe" code || startsWord "extern" code || startsWord "fn" code

/-- Whether a constant or a constant function is declared, and no closure or block is meant. -/
def startsConstant (code : Code) : Bool :=
  let next := afterTree code
  startsWord "const" code && !(startsGroup .brace next || startsWord "static" next ||
    (startsWord "async" next && !qualifiesFunction (afterTree next)) || startsWord "move" next ||
    startsSign ['|'] next)

/-- Whether a statement is a declaration. -/
def startsDeclaration (code : Code) : Bool :=
  let next := afterTree code
  declaring.any (startsWord · code) || startsConstant code ||
    (startsWord "crate" code && !startsSign [':', ':'] next) ||
    (startsWord "static" code && (startsWord "mut" next || startsIdentifier next)) ||
    (startsWord "unsafe" code && !startsGroup .brace next) ||
    (startsWord "async" code && qualifiesFunction next) ||
    (startsWord "union" code && startsIdentifier next) ||
    (startsWord "auto" code && startsWord "trait" next) ||
    (startsWord "default" code && (startsWord "unsafe" next || startsWord "impl" next))

/-! ## Kinds of declarations

A reader that answers says whether the declaration has to be kept as it stood. -/

/-- A function. -/
def functionDeclaration (self : Rules) : Parser Bool := do
  let _ ← visibility
  let _ ← signature self false
  if ← sign? ";" then return true
  attributedBlock self
  return false

/-- A value with a place of its own. -/
def staticDeclaration (self : Rules) : Parser Bool := do
  let _ ← visibility
  keyword "static"
  let _ ← keyword? "mut"
  identifier
  if ← sign? "=" then
    self.expression
    sign ";"
    return true
  sign ":"
  self.type
  if ← sign? ";" then return true
  sign "="
  self.expression
  sign ";"
  return false

/-- A constant. -/
def constantDeclaration (self : Rules) : Parser Bool := do
  let _ ← visibility
  keyword "const"
  let (valued, simple) ← constantBody self []
  return !(valued && simple)

/-- A name for a type. -/
def typeDeclaration (self : Rules) : Parser Bool := do
  let (bounded, defined) ← typeBody self false .before
  return bounded || !defined

/-- A module, with its declarations or without. -/
def moduleDeclaration (self : Rules) : Parser Unit := do
  let _ ← visibility
  let _ ← keyword? "unsafe"
  keyword "mod"
  if ← seesWord "try" then anyWord else identifier
  if ← sign? ";" then return
  if ← seesGroup .brace then
    group .brace do
      innerAttributes self
      while? (return !(← atEnd)) self.declaration
  else refuse [.sign ";", .group .brace]

/-- What is defined elsewhere. -/
def foreignDeclaration (self : Rules) : Parser Unit := do
  let _ ← keyword? "unsafe"
  if ← seesWord "extern" then callConvention else refuse [.keyword "extern"]
  group .brace do
    innerAttributes self
    while? (return !(← atEnd)) (foreignMember self)

/-- A trait with its members, after its parameters. -/
def traitBody (self : Rules) : Parser Unit := do
  let ends (code : Code) : Bool := startsWord "where" code || startsGroup .brace code
  afterColon (boundList self ends true true)
  let _ ← whereClause self
  group .brace do
    innerAttributes self
    while? (return !(← atEnd)) (traitMember self)

/-- A trait, or another name for a sum of traits. -/
def traitDeclaration (self : Rules) : Parser Unit := do
  let _ ← visibility
  let isUnsafe ← keyword? "unsafe"
  let isAuto ← keyword? "auto"
  keyword "trait"
  identifier
  let _ ← generics self
  let code := (← get).tokens
  if isUnsafe || isAuto || startsGroup .brace code || startsSign [':'] code ||
      startsWord "where" code then
    traitBody self
  else if ← sign? "=" then
    let ends (code : Code) : Bool := startsWord "where" code || startsSign [';'] code
    let _ ← boundList self ends true false
    let _ ← whereClause self
    sign ";"
  else refuse [.group .brace, .sign ":", .keyword "where", .sign "="]

/-- An implementation: the members of a type, perhaps those that a trait demands. Only a trait can be
said not to be implemented. -/
def implDeclaration (self : Rules) : Parser Bool := do
  let visible ← visibility
  let _ ← keyword? "default"
  let _ ← keyword? "unsafe"
  keyword "impl"
  if ← ask startsGenerics then
    let _ ← generics self
  let isConst ← ask fun code =>
    startsWord "const" code || (startsSign ['?'] code && startsWord "const" (afterTree code))
  if isConst then
    let _ ← sign? "?"
    keyword "const"
  let negative ← ask fun code => startsSign ['!'] code && !startsGroup .brace (afterTree code)
  if negative then sign "!"
  let first ← self (.type true)
  let ofTrait ← keyword? "for"
  if ofTrait then self.type
  else if negative then throw .negativeInherent
  let _ ← whereClause self
  group .brace do
    innerAttributes self
    while? (return !(← atEnd)) (implMember self)
  return visible || isConst || (ofTrait && first ≠ .typeName && first ≠ .typePath)

/-- A macro with parameters in parentheses or without. -/
def macroDeclaration : Parser Unit := do
  let _ ← visibility
  keyword "macro"
  identifier
  let parameters ← seesGroup .paren
  if parameters then skip
  if ← seesGroup .brace then skip
  else refuse ((if parameters then [] else [.group .paren]) ++ [.group .brace])

/-! ## The kind of a declaration -/

/-- What is wanted where a declaration should begin. A word that begins one only together with the
next word is not asked for where it stands already. -/
def declarationStarts (visible : Bool) (code : Code) : List Wanted :=
  let single :=
    ["fn", "extern", "use", "static", "const", "unsafe", "mod", "type", "struct", "enum"]
  let absent (name : String) : List Wanted :=
    if startsWord name code then [] else [.keyword name]
  single.map .keyword ++ absent "union" ++ [.keyword "trait"] ++ absent "auto" ++
    [.keyword "impl"] ++ absent "default" ++ [.keyword "macro"] ++
    if visible then [] else macroCallStarts

/-- A declaration after its attributes; the answer is whether it has to be kept as it stood. -/
def declarationKind (self : Rules) : Parser Bool := do
  let start ← get
  let visible ← visibility
  let code := (← get).tokens
  let next := afterTree code
  let unkept (p : Parser Unit) : Parser Bool := do
    p
    return false
  set start
  if startsSignature false code then functionDeclaration self
  else if startsWord "extern" code then
    let third := afterTree next
    if startsWord "crate" next then unkept crateDeclaration
    else if startsGroup .brace next || (startsText next && startsGroup .brace third) then
      unkept (foreignDeclaration self)
    else if startsText next then refuseAt third [.group .brace]
    else refuseAt next [.keyword "crate", .group .brace, .stringLiteral]
  else if startsWord "use" code then useDeclaration self
  else if startsWord "static" code then staticDeclaration self
  else if startsWord "const" code then constantDeclaration self
  else if startsWord "unsafe" code then
    let auto := startsWord "auto" next
    if startsWord "trait" next || (auto && startsWord "trait" (afterTree next)) then
      unkept (traitDeclaration self)
    else if startsWord "impl" next then implDeclaration self
    else if startsWord "extern" next then unkept (foreignDeclaration self)
    else if startsWord "mod" next then unkept (moduleDeclaration self)
    else
      refuseAt next ([.keyword "trait"] ++ (if auto then [] else [.keyword "auto"]) ++
        [.keyword "impl", .keyword "extern", .keyword "mod"])
  else if startsWord "mod" code then unkept (moduleDeclaration self)
  else if startsWord "type" code then typeDeclaration self
  else if startsWord "struct" code then unkept (structDeclaration self)
  else if startsWord "enum" code then unkept (enumDeclaration self)
  else if startsWord "union" code && startsIdentifier next then unkept (unionDeclaration self)
  else if startsWord "trait" code || (startsWord "auto" code && startsWord "trait" next) then
    unkept (traitDeclaration self)
  else if startsWord "impl" code || (startsWord "default" code && !startsSign ['!'] next) then
    implDeclaration self
  else if startsWord "macro" code then
    macroDeclaration
    return true
  else if !visible && startsMacroCall code then unkept (macroBody true)
  else refuseAt code (declarationStarts visible code)

/-- A declaration with its attributes. -/
def declarationRule (self : Rules) : Parser Shape := do
  let before ← get
  let _ ← attributes self
  if ← declarationKind self then keepAsStood before
  return .plain

end Grammar

end TextTemplate
