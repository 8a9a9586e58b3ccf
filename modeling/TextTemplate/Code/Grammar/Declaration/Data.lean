import TextTemplate.Code.Grammar.Declaration.Visibility
import TextTemplate.Code.Grammar.Generic

/-!
# Declarations of data

- `fieldsRule`: named fields in braces.
- `structDeclaration`: a type with fields, which have names, numbers or are missing.
- `enumDeclaration`: a type with a choice of fields.
- `unionDeclaration`: a type whose fields share their place.
-/

namespace TextTemplate

namespace Grammar

/-! ## Fields -/

/-- A field with a name. Without a name, a struct or a union in braces may stand for its type. -/
def namedField (self : Rules) : Parser Unit := do
  let _ ← attributes self
  let _ ← visibility
  let nameless ← seesWord "_"
  if nameless then anyWord else identifier
  sign ":"
  let inPlace ← ask fun code =>
    startsWord "struct" code || (startsWord "union" code && startsGroup .brace (afterTree code))
  if nameless && inPlace then
    asStood do
      anyWord
      self.fields
  else self.type

/-- Fields with names. -/
def fieldsRule (self : Rules) : Parser Shape := do
  group .brace (listed (namedField self))
  return .plain

/-- Fields with numbers. -/
def numberedFields (self : Rules) : Parser Unit :=
  group .paren <| listed do
    let _ ← attributes self
    let _ ← visibility
    self.type

/-! ## Types -/

/-- A type with fields. What it demands of its parameters stands before fields with names and after
fields with numbers. -/
def structDeclaration (self : Rules) : Parser Unit := do
  let _ ← visibility
  keyword "struct"
  identifier
  let _ ← generics self
  let demands ← whereClause self
  let places : List Wanted := if demands then [] else [.keyword "where", .group .paren]
  if !demands && (← seesGroup .paren) then
    numberedFields self
    let demands ← whereClause self
    if !(← sign? ";") then refuse ((if demands then [] else [.keyword "where"]) ++ [.sign ";"])
  else if ← seesGroup .brace then self.fields
  else if !(← sign? ";") then refuse (places ++ [.group .brace, .sign ";"])

/-- One of the choices of a type. Who may see it is not written. -/
def variant (self : Rules) : Parser Unit := do
  let _ ← attributes self
  let _ ← captured visibility
  identifier
  if ← seesGroup .brace then self.fields
  else if ← seesGroup .paren then numberedFields self
  if ← sign? "=" then self.expression

/-- A type with a choice of fields. -/
def enumDeclaration (self : Rules) : Parser Unit := do
  let _ ← visibility
  keyword "enum"
  identifier
  let _ ← generics self
  let _ ← whereClause self
  group .brace (listed (variant self))

/-- A type whose fields share their place. -/
def unionDeclaration (self : Rules) : Parser Unit := do
  let _ ← visibility
  keyword "union"
  identifier
  let _ ← generics self
  let _ ← whereClause self
  self.fields

end Grammar

end TextTemplate
