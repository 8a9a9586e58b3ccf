import TextTemplate.Code.Grammar.Parser

/-!
# The recursive kinds of code

Expressions, patterns, types and declarations contain one another. Each rule of the grammar is
written over a function that reads the recursive kinds, so that no rule calls itself.

- `Nonterminal`: the recursive kinds.
- `Shape`: what a rule has to know about the code that another rule has read.
- `Rules`: a reader for each kind.
- `Precedence`: how tightly the operators bind.
-/

namespace TextTemplate

namespace Grammar

/-- How tightly an operator binds, from the loosest on. -/
inductive Precedence
  | jump
  | assign
  | range
  | or
  | and
  | binding
  | compare
  | bitOr
  | bitXor
  | bitAnd
  | shift
  | sum
  | product
  | cast
deriving DecidableEq, Repr

namespace Precedence

/-- The place of a precedence in the order. -/
def rank : Precedence → Nat
  | jump => 0
  | assign => 1
  | range => 2
  | or => 3
  | and => 4
  | binding => 5
  | compare => 6
  | bitOr => 7
  | bitXor => 8
  | bitAnd => 9
  | shift => 10
  | sum => 11
  | product => 12
  | cast => 13

/-- Whether one precedence is at least as tight as another. -/
def atLeast (p q : Precedence) : Bool := q.rank ≤ p.rank

/-- Whether one precedence is tighter than another. -/
def above (p q : Precedence) : Bool := q.rank < p.rank

end Precedence

/-- What other rules depend on in the code that was read. -/
inductive Shape
  /-- Nothing depends on it. -/
  | plain
  /-- An expression with a range operator outermost. -/
  | range
  /-- An expression with a comparison outermost. -/
  | comparison
  /-- An expression that ends a statement by its own braces. -/
  | block
  /-- A macro call in braces. -/
  | bracedCall
  /-- A range pattern that lacks a bound. -/
  | openRange
  /-- A type that is one name, perhaps with arguments in angle brackets. -/
  | typeName
  /-- A type that is a longer path. -/
  | typePath
  /-- A type that is one bound. -/
  | singleBound
  /-- A bound with a question mark. -/
  | maybeBound
  /-- A tree of imports in which a branch starts at the root of all names. -/
  | rooted
deriving DecidableEq, Repr

/-- The recursive kinds of code. -/
inductive Nonterminal
  /-- An expression; where a block follows, a brace may not begin the fields of a struct. -/
  | expression (structs : Bool)
  /-- An operand with its prefix operators and what trails it. -/
  | operand (structs : Bool)
  /-- The operators of at least a given precedence that follow a left operand, and their right
  operands. -/
  | operators (structs : Bool) (base : Precedence) (left : Shape)
  /-- An expression as a statement or as an arm of a match. -/
  | statementExpression
  /-- The statements of a block. -/
  | statements
  /-- A pattern without alternatives at the top. -/
  | pattern
  /-- A type, which may be a sum of bounds or not. -/
  | type (plus : Bool)
  /-- Arguments in angle brackets. -/
  | arguments
  /-- A parameter that a type or a closure introduces for itself. -/
  | parameter
  /-- A declaration with its attributes. -/
  | declaration
  /-- The fields of a struct in braces. -/
  | fields
  /-- A tree of imports, which may start at the root of all names or not. -/
  | imports (root : Bool)
deriving Repr

/-- A reader for every kind of code. -/
abbrev Rules := Nonterminal → Parser Shape

namespace Rules

/-- An expression anywhere. -/
def expression (self : Rules) : Parser Unit := do
  let _ ← self (.expression true)

/-- An expression before a block. -/
def condition (self : Rules) : Parser Unit := do
  let _ ← self (.expression false)

/-- A block in braces. -/
def block (self : Rules) : Parser Unit :=
  group .brace do
    let _ ← self .statements

/-- A pattern without alternatives at the top. -/
def pattern (self : Rules) : Parser Unit := do
  let _ ← self .pattern

/-- A type that may be a sum of bounds. -/
def type (self : Rules) : Parser Unit := do
  let _ ← self (.type true)

/-- A type that is no sum of bounds. -/
def typeNoSum (self : Rules) : Parser Unit := do
  let _ ← self (.type false)

/-- Arguments in angle brackets. -/
def arguments (self : Rules) : Parser Unit := do
  let _ ← self .arguments

/-- A parameter that is introduced for what follows. -/
def parameter (self : Rules) : Parser Unit := do
  let _ ← self .parameter

/-- A declaration with its attributes. -/
def declaration (self : Rules) : Parser Unit := do
  let _ ← self .declaration

/-- The fields of a struct in braces. -/
def fields (self : Rules) : Parser Unit := do
  let _ ← self .fields

/-- Patterns with bars between them. Two bars, or a bar and an equals sign, are other operators. -/
def alternatives (self : Rules) : Parser Shape := do
  let leading ← sign? "|"
  let first ← self .pattern
  let bar : Parser Bool := do
    return (← sees "|") && !(← sees "||") && !(← sees "|=")
  if leading || (← bar) then
    while? bar do
      sign "|"
      self.pattern
    return .plain
  return first

end Rules

/-- What follows an arrow, if there is one, in the type of a function: the type of the result. -/
def result (self : Rules) : Parser Unit := do
  if ← sign? "->" then self.typeNoSum

end Grammar

end TextTemplate
