import TextTemplate.Code.Grammar.Pattern

/-!
# Expressions

- `operator?`: the binary operator that comes next.
- `operatorsRule`: the operators after a left operand, tighter ones first.
- `operandRule`: an operand with its prefix operators and what trails it.
- `atom`: an operand without either.
- `statementExpression`: an expression that may end a statement by its own braces.

Where a block follows an expression, a brace does not begin the fields of a struct; rules take a
`structs` argument that says whether it may.
-/

namespace TextTemplate

namespace Grammar

/-! ## Operators -/

/-- The binary operators, longer ones before their beginnings, and how tightly they bind. -/
def binaryOperators : List (String × Precedence) :=
  [("+=", .assign), ("-=", .assign), ("*=", .assign), ("/=", .assign), ("%=", .assign),
    ("^=", .assign), ("&=", .assign), ("|=", .assign), ("<<=", .assign), (">>=", .assign),
    ("&&", .and), ("||", .or), ("<<", .shift), (">>", .shift), ("==", .compare), ("<=", .compare),
    ("!=", .compare), (">=", .compare), ("+", .sum), ("-", .sum), ("*", .product), ("/", .product),
    ("%", .product), ("^", .bitXor), ("&", .bitAnd), ("|", .bitOr), ("<", .compare),
    (">", .compare)]

/-- The binary operator that comes next. -/
def operator? : Parser (Option (String × Precedence)) := do
  let code := (← get).tokens
  return binaryOperators.find? fun (text, _) => startsSign text.toList code

/-- Whether an assignment comes next. -/
def seesAssignment : Parser Bool := do
  return (← sees "=") && !(← sees "=>")

/-- How tightly the next operator binds; what is no operator binds least. -/
def nextPrecedence : Parser Precedence := do
  if let some (_, p) ← operator? then return p
  if ← seesAssignment then return .assign
  if ← sees ".." then return .range
  if ← seesWord "as" then return .cast
  return .jump

/-- The right operand of an operator, with the operators that bind tighter. An assignment also takes
the assignments to its right. -/
def rightOperand (self : Rules) (structs : Bool) (p : Precedence) : Parser Shape := do
  let first ← self (.operand structs)
  several first fun left => do
    let next ← nextPrecedence
    if next.above p || (next = p && p = .assign) then
      -- An operator that cannot be taken here is left alone, and the operand is over.
      let before := (← get).tokens.length
      let left ← self (.operators structs next left)
      return (left, (← get).tokens.length < before)
    return (left, false)

/-- Whether a range without an end is over. -/
def endsRange (structs : Bool) : Parser Bool :=
  ask fun code =>
    let starts (text : String) := startsSign text.toList code
    code.isEmpty || starts "," || starts ";" || (starts "." && !starts "..") || starts "?" ||
      starts "=>" || (!structs && startsGroup .brace code) || starts "=" || starts "+" ||
      starts "/" || starts "%" || starts "^" || starts ">" || starts "<=" || starts "!=" ||
      starts "-=" || starts "*=" || starts "&=" || starts "|=" || starts "<<=" ||
      startsWord "as" code

/-- The operator of a range and its end. -/
def rangeOperator (self : Rules) (structs : Bool) : Parser Unit := do
  let closed ← rangeLimits
  if closed || !(← endsRange structs) then
    let _ ← rightOperand self structs .range

/-- A cast is over: what trails an operand may not follow it. -/
def checkCast : Parser Unit := do
  let code := (← get).tokens
  let next := afterTree code
  let third := afterTree next
  if startsSign ['.'] code && !startsSign ['.', '.'] code then
    if startsWord "await" next then throw (.castFollowed .await)
    if startsIdentifier next && (startsGroup .paren third || startsSign [':', ':'] third) then
      throw (.castFollowed .methodCall)
    throw (.castFollowed .field)
  if startsSign ['?'] code then throw (.castFollowed .question)
  if startsGroup .bracket code then throw (.castFollowed .index)
  if startsGroup .paren code then throw (.castFollowed .call)

/-- The operators of at least a given precedence after a left operand. A range is never a left
operand, and comparisons are not chained. -/
def operatorsRule (self : Rules) (structs : Bool) (base : Precedence) (left : Shape) :
    Parser Shape :=
  several left fun left => do
    if left = .range then return (left, false)
    if let some (text, p) ← operator? then
      if !p.atLeast base then return (left, false)
      if p = .compare && left = .comparison then throw .chainedComparison
      sign text
      let _ ← rightOperand self structs p
      return (if p = .compare then .comparison else .plain, true)
    if Precedence.assign.atLeast base && (← seesAssignment) then
      sign "="
      let _ ← rightOperand self structs .assign
      return (.plain, true)
    if Precedence.range.atLeast base && (← sees "..") then
      rangeOperator self structs
      return (.range, true)
    if Precedence.cast.atLeast base && (← seesWord "as") then
      keyword "as"
      self.typeNoSum
      checkCast
      return (.plain, true)
    return (left, false)

/-! ## What trails an operand -/

/-- The parts of a text between its points. -/
def splitAtPoints (s : List Char) : List (List Char) :=
  s.foldr (fun c parts =>
    if c = '.' then [] :: parts
    else match parts with
      | [] => [[c]]
      | first :: rest => (c :: first) :: rest) [[]]

/-- Fields that were read as one number with a point: `a.0.1`. They are written one by one. The
answer is whether a field name has still to follow, because the number ended in a point. -/
def fieldNumber (text : String) : Parser Bool := do
  let s := text.toList
  let trailing := s.getLast? == some '.'
  let s := if trailing then s.dropLast else s
  let indices ← (splitAtPoints s).mapM fun part => fieldIndex (String.ofList part)
  let _ ← captured skip
  emit ((indices.map indexCode).intersperse (Code.joined ['.'])).flatten
  if trailing then emit (Code.joined ['.'])
  return trailing

/-- Whether a text is that of a float literal. -/
def isFloat (text : String) : Bool :=
  Number.startsDecimal text.toList && !isInteger text

/-- What follows a point: fields by number, a name, a method call, or `await`. -/
def afterPoint (self : Rules) : Parser Unit := do
  let more ← match (← get).tokens with
    | .literal text :: _ => if isFloat text then fieldNumber text else pure true
    | .mark '-' _ :: .literal text :: _ =>
      if isFloat text then negativeIndex (String.ofList (text.toList.takeWhile (· ≠ '.')))
      else pure true
    | _ => pure true
  if more && !(← keyword? "await") then
    let named ← member
    if named then
      let turbofish ← sees "::"
      if turbofish then
        sign "::"
        self.arguments
      if turbofish || (← seesGroup .paren) then group .paren (listed self.expression)

/-- Calls, fields, method calls, indices and question marks after an operand. -/
def trailing (self : Rules) (left : Shape) : Parser Shape :=
  several left fun left => do
    if ← seesGroup .paren then
      group .paren (listed self.expression)
      return (.plain, true)
    if (← sees ".") && !(← sees "..") && left ≠ .range then
      sign "."
      afterPoint self
      return (.plain, true)
    if ← seesGroup .bracket then
      group .bracket self.expression
      return (.plain, true)
    if (← sees "?") && left ≠ .range then
      sign "?"
      return (.plain, true)
    return (left, false)

/-! ## Kinds of operands -/

/-- Whether an expression may begin here. -/
def seesExpression : Parser Bool :=
  ask fun code =>
    let starts (text : String) := startsSign text.toList code
    (startsAnyWord code && !startsWord "as" code) || startsGroup .paren code ||
      startsGroup .bracket code || startsGroup .brace code || startsLiteral code ||
      (starts "!" && !starts "!=") || (starts "-" && !starts "-=" && !starts "->") ||
      (starts "*" && !starts "*=") || (starts "|" && !starts "|=") ||
      (starts "&" && !starts "&=") || starts ".." ||
      (starts "<" && !starts "<=" && !starts "<<=") || starts "::" || startsLifetime code ||
      starts "#"

/-- The label of a loop or block. -/
def label : Parser Unit := do
  lifetime
  sign ":"

/-- A choice of blocks. -/
def ifExpression (self : Rules) : Parser Shape := do
  several () fun _ => do
    keyword "if"
    self.condition
    self.block
    if ← keyword? "else" then
      if ← seesWord "if" then return ((), true)
      if ← seesGroup .brace then self.block
      else refuse [.keyword "if", .group .brace]
    return ((), false)
  return .block

/-- A loop while a condition holds. -/
def whileExpression (self : Rules) : Parser Shape := do
  keyword "while"
  self.condition
  attributedBlock self
  return .block

/-- A loop over items. -/
def forExpression (self : Rules) : Parser Shape := do
  keyword "for"
  let _ ← self.alternatives
  keyword "in"
  self.condition
  attributedBlock self
  return .block

/-- A loop without a condition. -/
def loopExpression (self : Rules) : Parser Shape := do
  keyword "loop"
  attributedBlock self
  return .block

/-- A choice by patterns. An arm that is not a block ends with a comma. -/
def matchExpression (self : Rules) : Parser Shape := do
  keyword "match"
  self.condition
  group .brace do
    innerAttributes self
    several () fun _ => do
      if ← atEnd then return ((), false)
      let _ ← attributes self
      let _ ← self.alternatives
      if ← keyword? "if" then self.expression
      sign "=>"
      let body ← self .statementExpression
      -- The comma may be missing after a block and after the last arm.
      if body ≠ .block && !(← atEnd) then sign ","
      else
        let _ ← sign? ","
      return ((), true)
  return .block

/-- A loop or block with a label. -/
def labeled (self : Rules) : Parser Shape := do
  label
  if ← seesWord "while" then whileExpression self
  else if ← seesWord "for" then forExpression self
  else if ← seesWord "loop" then loopExpression self
  else if ← seesGroup .brace then
    attributedBlock self
    return .block
  else refuse [.loopOrBlock]

/-- An anonymous function. -/
def closure (self : Rules) (structs : Bool) : Parser Shape := do
  let _ ← binder self
  let _ ← keyword? "const"
  let _ ← keyword? "static"
  let _ ← keyword? "async"
  let _ ← keyword? "move"
  sign "|"
  several () fun _ => do
    if ← sees "|" then return ((), false)
    let _ ← attributes self
    self.pattern
    if ← sign? ":" then self.type
    if ← sees "|" then return ((), false)
    sign ","
    return ((), true)
  sign "|"
  if ← sign? "->" then
    self.type
    self.block
  else
    let _ ← self (.expression structs)
  return .plain

/-- The fields of a struct expression. -/
def structFields (self : Rules) : Parser Unit :=
  group .brace <| several () fun _ => do
    if ← atEnd then return ((), false)
    if ← sign? ".." then
      if !(← atEnd) then self.expression
      return ((), false)
    let _ ← attributes self
    let named ← member
    -- A name alone is the value of the variable of that name; a number needs a value.
    if (← sees ":") || !named then
      sign ":"
      self.expression
    if ← atEnd then return ((), false)
    sign ","
    return ((), true)

/-- An expression that begins with a path: the path itself, a macro call, or a struct. -/
def pathExpression (self : Rules) (structs : Bool) : Parser Shape := do
  let form ← qualifiedPath self true
  if !form.qualified && (← sees "!") && !(← sees "!=") && form.bare then
    sign "!"
    return if ← anyGroup then .bracedCall else .plain
  if structs && (← seesGroup .brace) then structFields self
  return .plain

/-- An expression in parentheses, or a tuple. -/
def parenExpression (self : Rules) : Parser Shape := do
  group .paren (listed self.expression)
  return .plain

/-- A list of items, or an item and how often it is repeated. -/
def bracketExpression (self : Rules) : Parser Shape := do
  group .bracket do
    if !(← atEnd) then
      self.expression
      if (← atEnd) || (← sees ",") then
        if ← sign? "," then listed self.expression
      else if ← sign? ";" then self.expression
      else refuse [.commaOrSemicolon]
  return .plain

/-- Leaving a loop, perhaps with a value. A labeled loop as the value needs parentheses. Before a
block a brace does not begin the value, but inside of it structs are allowed. -/
def breakExpression (self : Rules) (structs : Bool) : Parser Shape := do
  keyword "break"
  let code := (← get).tokens
  if startsLifetime code && startsSign [':'] (afterTree code) then
    -- What is wrong inside of the loop is reported before the parentheses that it lacks.
    self.expression
    throw .bareLabel
  let _ ← lifetime?
  if (← seesExpression) && (structs || !(← seesGroup .brace)) then self.expression
  return .plain

/-- A word that may be followed by a value. -/
def jump (self : Rules) (name : String) : Parser Shape := do
  keyword name
  if ← seesExpression then self.expression
  return .plain

/-- A pattern that is matched within a condition. -/
def letExpression (self : Rules) (structs : Bool) : Parser Shape := do
  keyword "let"
  let _ ← self.alternatives
  sign "="
  let left ← self (.operand structs)
  let _ ← self (.operators structs .compare left)
  return .plain

/-- An operand without prefix operators and without what trails it. -/
def atom (self : Rules) (structs : Bool) : Parser Shape := do
  let code := (← get).tokens
  let next := afterTree code
  let third := afterTree next
  if startsLiteral code then
    literal
    return .plain
  else if startsWord "async" code &&
      (startsGroup .brace next || (startsWord "move" next && startsGroup .brace third)) then
    keyword "async"
    let _ ← keyword? "move"
    self.block
    return .plain
  else if startsWord "try" code && startsGroup .brace next then
    keyword "try"
    self.block
    return .block
  else if startsSign ['|'] code || startsWord "move" code ||
      (startsWord "for" code && startsGenerics next) ||
      (startsWord "const" code && !startsGroup .brace next) || startsWord "static" code ||
      (startsWord "async" code && (startsSign ['|'] next || startsWord "move" next)) then
    closure self structs
  else if startsWord "builtin" code && startsSign ['#'] next then
    asStood do
      keyword "builtin"
      sign "#"
      identifier
      group .paren (while? (return !(← atEnd)) skip)
    return .plain
  else if startsPathWord code || startsSign [':', ':'] code || startsSign ['<'] code ||
      (startsWord "try" code && (startsSign ['!'] next || startsSign [':', ':'] next)) then
    pathExpression self structs
  else if startsGroup .paren code then parenExpression self
  else if startsWord "break" code then breakExpression self structs
  else if startsWord "continue" code then
    keyword "continue"
    let _ ← lifetime?
    return .plain
  else if startsWord "return" code then jump self "return"
  else if startsWord "become" code then
    asStood do
      keyword "become"
      self.expression
    return .plain
  else if startsGroup .bracket code then bracketExpression self
  else if startsWord "let" code then letExpression self structs
  else if startsWord "if" code then ifExpression self
  else if startsWord "while" code then whileExpression self
  else if startsWord "for" code then forExpression self
  else if startsWord "loop" code then loopExpression self
  else if startsWord "match" code then matchExpression self
  else if startsWord "yield" code then jump self "yield"
  else if startsWord "unsafe" code then
    keyword "unsafe"
    attributedBlock self
    return .block
  else if startsWord "const" code then
    keyword "const"
    attributedBlock self
    return .block
  else if startsGroup .brace code then
    attributedBlock self
    return .block
  else if startsSign ['.', '.'] code then
    rangeOperator self structs
    return .range
  else if startsWord "_" code then
    skip
    return .plain
  else if startsLifetime code then labeled self
  else refuse [.expression]

/-- An operand with its prefix operators and what trails it. -/
def operandRule (self : Rules) (structs : Bool) : Parser Shape := do
  let attributed ← attributes self
  let code := (← get).tokens
  if startsSign ['&'] code then
    sign "&"
    let tokens := (← get).tokens
    let next := afterTree tokens
    if startsWord "raw" tokens && (startsWord "mut" next || startsWord "const" next) then
      skip
      skip
    else
      let _ ← keyword? "mut"
    let _ ← self (.operand structs)
    return .plain
  else if startsSign ['*'] code || startsSign ['!'] code || startsSign ['-'] code then
    skipSign
    let _ ← self (.operand structs)
    return .plain
  else
    let shape ← trailing self (← atom self structs)
    if attributed && shape = .range then throw .attributeOnRange
    return shape
where
  /-- Takes one mark as an operator of its own. -/
  skipSign : Parser Unit := do
    match (← get).tokens with
    | .mark c _ :: _ => sign (String.singleton c)
    | _ => return ()

/-- An expression. -/
def expressionRule (self : Rules) (structs : Bool) : Parser Shape := do
  let left ← self (.operand structs)
  self (.operators structs .jump left)

/-- An expression as a statement or as an arm of a match. One that ends in its own braces is over
there, unless a point or a question mark follows. -/
def statementExpression (self : Rules) : Parser Shape := do
  let _ ← attributes self
  let code := (← get).tokens
  let next := afterTree code
  let shape ←
    if startsWord "if" code then ifExpression self
    else if startsWord "while" code then whileExpression self
    else if startsWord "for" code && !startsGenerics next then forExpression self
    else if startsWord "loop" code then loopExpression self
    else if startsWord "match" code then matchExpression self
    else if startsWord "try" code && startsGroup .brace next then
      keyword "try"
      self.block
      pure .block
    else if startsWord "unsafe" code then
      keyword "unsafe"
      attributedBlock self
      pure .block
    else if startsWord "const" code && startsGroup .brace next then
      keyword "const"
      attributedBlock self
      pure .block
    else if startsGroup .brace code then
      attributedBlock self
      pure .block
    else if startsLifetime code then labeled self
    else self (.operand true)
  if shape ≠ .block then self (.operators true .jump shape)
  else if ((← sees ".") && !(← sees "..")) || (← sees "?") then
    let shape ← trailing self shape
    self (.operators true .jump shape)
  else return shape

end Grammar

end TextTemplate
