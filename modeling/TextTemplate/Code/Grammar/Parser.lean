import TextTemplate.Code.Grammar.Complaint
import TextTemplate.Code.Lexeme

/-!
# Reading token trees

The grammar of the embedded code is read by functions that take tokens off the front of a list.

- `Input`: the tokens that are left, those that have been read, and the first group, if any, of
  which something was left over. A leftover is reported only after everything else has been read.
- `Parser`: a function on the input that may fail with a complaint.
- `sign`, `keyword`, `identifier`, `group`: the tokens that the grammar asks for.
- `several`: repetition; every turn takes a token, so the number of tokens bounds the turns.
- `captured`, `emit`, `keepAsStood`: what is written for the code that was read.
- `plainPath`: a path of names only.
- `Parser.all`: a whole piece of code read by a parser.

What has been read is written in one form: the marks of an operator touch each other and nothing
else, however they were spaced. Only what the grammar does not look into is kept as it stood.
-/

namespace TextTemplate

namespace Grammar

/-- The state of a reader. -/
structure Input where
  /-- The tokens that are left of the current group. -/
  tokens : Code
  /-- The tokens of the current group that have been read, last first. -/
  done : Code
  /-- The first group that was left before its end. -/
  spilled : Option Delimiter

/-- A reader of tokens. -/
abbrev Parser := StateT Input (Except Complaint)

/-! ## Looking ahead -/

/-- Whether the code starts with the marks of an operator, each touching the next. The mark that
begins a lifetime is not part of an operator. -/
def startsSign : List Char → Code → Bool
  | [c], .mark d _ :: _ => c == d
  | c :: rest, .mark d s :: code => c == d && s == .joint && startsSign rest code
  | _, _ => false

/-- The code after its first token tree; a lifetime counts as one. -/
def afterTree : Code → Code
  | .mark '\'' .joint :: .word _ :: rest => rest
  | _ :: rest => rest
  | [] => []

/-- Whether the code starts with a given word. -/
def startsWord (name : String) : Code → Bool
  | .word w :: _ => w == name
  | _ => false

/-- Whether the code starts with any word. -/
def startsAnyWord : Code → Bool
  | .word _ :: _ => true
  | _ => false

/-- Whether the code starts with a group of the given kind. -/
def startsGroup (d : Delimiter) : Code → Bool
  | .group e _ :: _ => d == e
  | _ => false

/-- Whether the code starts with a lifetime. -/
def startsLifetime : Code → Bool
  | .mark '\'' .joint :: .word _ :: _ => true
  | _ => false

/-- The words that name nothing. -/
def keywords : List String :=
  ["_", "abstract", "as", "async", "await", "become", "box", "break", "const", "continue", "crate",
    "do", "dyn", "else", "enum", "extern", "false", "final", "fn", "for", "if", "impl", "in", "let",
    "loop", "macro", "match", "mod", "move", "mut", "override", "priv", "pub", "ref", "return",
    "Self", "self", "static", "struct", "super", "trait", "true", "try", "type", "typeof", "unsafe",
    "unsized", "use", "virtual", "where", "while", "yield"]

/-- Whether the code starts with a word that is not a keyword. -/
def startsIdentifier : Code → Bool
  | .word w :: _ => !keywords.contains w
  | _ => false

/-- Whether the code starts with a word that may stand at the front of a path. -/
def startsPathWord (code : Code) : Bool :=
  startsIdentifier code || ["super", "self", "Self", "crate"].any (startsWord · code)

/-- Whether the code starts with a text in quotes. -/
def startsText : Code → Bool
  | .literal text :: _ => StringLiteral.isText text.toList
  | _ => false

/-- Whether the code starts with a literal; the two truth values count as literals, and so does a
number with a minus before it. -/
def startsLiteral : Code → Bool
  | .literal _ :: _ => true
  | .word w :: _ => w == "true" || w == "false"
  | .mark '-' _ :: .literal text :: _ => Number.startsDecimal text.toList
  | _ => false

/-- Whether generic parameters begin here, and not a path that begins with a type in angle brackets.
A name alone in angle brackets could be either; it is taken for a parameter. -/
def startsGenerics (code : Code) : Bool :=
  let next := afterTree code
  let third := afterTree next
  startsSign ['<'] code &&
    (startsSign ['>'] next || startsSign ['#'] next || startsWord "const" next ||
      ((startsLifetime next || startsIdentifier next) &&
        (startsSign ['>'] third || startsSign [','] third || startsSign ['='] third ||
          (startsSign [':'] third && !startsSign [':', ':'] third))))

/-- A question about what is left. -/
def ask (p : Code → Bool) : Parser Bool := do
  return p (← get).tokens

/-- Whether an operator comes next. -/
def sees (text : String) : Parser Bool := ask (startsSign text.toList)

/-- Whether a word comes next. -/
def seesWord (name : String) : Parser Bool := ask (startsWord name)

/-- Whether a group comes next. -/
def seesGroup (d : Delimiter) : Parser Bool := ask (startsGroup d)

/-- Whether nothing is left of the current group. -/
def atEnd : Parser Bool := ask List.isEmpty

/-! ## Complaints -/

/-- One of some things is wanted where some code comes next. -/
def refuseAt {α : Type} (code : Code) (wanted : List Wanted) : Parser α :=
  throw (.expected code.isEmpty wanted)

/-- One of some things is wanted and does not come next. -/
def refuse {α : Type} (wanted : List Wanted) : Parser α := do
  refuseAt (← get).tokens wanted

/-- A mark is wanted and does not come next. -/
def refuseSign {α : Type} (text : String) : Parser α :=
  throw (.expected false [.sign text])

/-! ## Taking tokens -/

/-- Takes the next token as it is. -/
def skip : Parser Unit :=
  modify fun i => match i.tokens with
    | [] => i
    | t :: rest => { i with tokens := rest, done := t :: i.done }

/-- Takes the marks of an operator. -/
def sign (text : String) : Parser Unit := do
  if ← sees text then
    let marks := Code.joined text.toList
    modify fun i =>
      { i with tokens := i.tokens.drop marks.length, done := marks.reverse ++ i.done }
  else refuseSign text

/-- Takes an operator if it comes next, and says whether it did. -/
def sign? (text : String) : Parser Bool := do
  if ← sees text then
    sign text
    return true
  return false

/-- Takes a given word. -/
def keyword (name : String) : Parser Unit := do
  if ← seesWord name then skip else refuse [.keyword name]

/-- Takes a word if it comes next, and says whether it did. -/
def keyword? (name : String) : Parser Bool := do
  if ← seesWord name then
    skip
    return true
  return false

/-- Takes a word that is not a keyword. -/
def identifier : Parser Unit := do
  match (← get).tokens with
  | .word w :: _ => if keywords.contains w then throw (.keyword w) else skip
  | _ => refuse [.identifier]

/-- Takes any word. -/
def anyWord : Parser Unit := do
  if ← ask startsAnyWord then skip else refuse [.identifier]

/-- Takes a literal. -/
def literal : Parser Unit := do
  match (← get).tokens with
  | .mark '-' _ :: .literal _ :: _ =>
    sign "-"
    skip
  | _ => skip

/-- Takes a lifetime. -/
def lifetime : Parser Unit := do
  if ← ask startsLifetime then
    skip
    skip
  else refuse [.lifetime]

/-- Takes a lifetime if it comes next, and says whether it did. -/
def lifetime? : Parser Bool := do
  if ← ask startsLifetime then
    lifetime
    return true
  return false

/-- Takes a group, reads its inside, and then what belongs to it after the group. What the inside
leaves over is remembered, not refused. -/
def groupThen {α β : Type} (d : Delimiter) (inside : Parser α) (after : α → Parser β) :
    Parser β := do
  match (← get).tokens with
  | .group e body :: rest =>
    if d = e then
      let outer ← get
      set { outer with tokens := body, done := [] }
      let a ← inside
      let inner ← get
      set { tokens := rest
            done := .group d inner.done.reverse :: outer.done
            spilled := inner.spilled : Input }
      let b ← after a
      -- What was left over earlier, deeper inside or in what belongs to the group is reported first.
      if !inner.tokens.isEmpty then modify fun i => { i with spilled := i.spilled.or (some d) }
      return b
    else refuse [.group d]
  | _ => refuse [.group d]

/-- Takes a group and reads its inside. What the inside leaves over is remembered, not refused. -/
def group {α : Type} (d : Delimiter) (inside : Parser α) : Parser α :=
  groupThen d inside pure

/-- Takes a group of any kind as it is, and says whether it was in braces. -/
def anyGroup : Parser Bool := do
  match (← get).tokens with
  | .group d _ :: _ =>
    skip
    return d == .brace
  | _ => refuse [.delimiter]

/-! ## Repetition -/

/-- Runs a turn until it says that it was the last, at most `n` times. -/
def turns {σ : Type} (turn : σ → Parser (σ × Bool)) : Nat → σ → Parser σ
  | 0, s => return s
  | n + 1, s => do
    let (s, more) ← turn s
    if more then turns turn n s else return s

/-- Runs a turn until it says that it was the last. A turn that is not the last takes a token. -/
def several {σ : Type} (start : σ) (turn : σ → Parser (σ × Bool)) : Parser σ := do
  turns turn ((← get).tokens.length + 1) start

/-- Runs an action while a condition holds; the action takes a token. -/
def while? (condition : Parser Bool) (action : Parser Unit) : Parser Unit :=
  several () fun _ => do
    if ← condition then
      action
      return ((), true)
    return ((), false)

/-- Items with commas between them up to the end of the group; a last comma may follow. -/
def listed (item : Parser Unit) : Parser Unit :=
  several () fun _ => do
    if ← atEnd then return ((), false)
    item
    if ← atEnd then return ((), false)
    sign ","
    return ((), true)

/-! ## What is written -/

/-- Runs a reader and returns what it has read instead of adding it to what was read before. -/
def captured {α : Type} (p : Parser α) : Parser (α × Code) := do
  let before := (← get).done
  modify fun i => { i with done := [] }
  let a ← p
  let code := (← get).done.reverse
  modify fun i => { i with done := before }
  return (a, code)

/-- Adds code to what has been read. -/
def emit (code : Code) : Parser Unit :=
  modify fun i => { i with done := code.reverse ++ i.done }

/-- Writes what was taken since an earlier moment as it stood there, with the spacing of its
marks. -/
def keepAsStood (before : Input) : Parser Unit :=
  modify fun i =>
    let taken := before.tokens.take (before.tokens.length - i.tokens.length)
    { i with done := taken.reverse ++ before.done }

/-- Runs a reader and writes what it took as it stood. -/
def asStood {α : Type} (p : Parser α) : Parser α := do
  let before ← get
  let a ← p
  keepAsStood before
  return a

/-! ## Paths of names -/

/-- A path of names only: the path of a macro or an attribute. -/
def plainPath : Parser Unit := do
  let _ ← sign? "::"
  if ← ask startsPathWord then
    let trailing ← several false fun _ => do
      if ← ask startsPathWord then
        anyWord
        if ← sign? "::" then return (true, true)
        return (false, false)
      return (true, false)
    if trailing then refuse [.pathSegment]
  else
    identifier

/-! ## Whole pieces of code -/

/-- Reads a whole piece of code. A leftover inside a group is reported before one at the end. -/
def Parser.all {α : Type} (p : Parser α) (code : Code) : Except Complaint (α × Code) := do
  let (a, i) ← p.run ⟨code, [], none⟩
  match i.spilled with
  | some d => throw (.leftover (some d))
  | none => if i.tokens.isEmpty then return (a, i.done.reverse) else throw (.leftover none)

end Grammar

end TextTemplate
