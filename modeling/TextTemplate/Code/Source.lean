import TextTemplate.Code.Lexeme

/-!
# Code read from a text

- `Placed.nest?`: lexemes gathered into token trees. Every delimiter has to be closed by its own.
- `Code.locate?`: the token trees of a text with their places.
- `Code.ofChars?`, `Code.ofText?`: the token trees alone.
- `Place`: a line and a column; `Place.ofOffset` finds that of a character.
-/

namespace TextTemplate

namespace Placed

/-- The value of every element. -/
def values {α : Type} (xs : List (Placed α)) : List α := xs.map (·.value)

/-- A group that is still open: where it began, its delimiter, and what stands before it. -/
structure Open where
  start : Nat
  delimiter : Delimiter
  before : List (Placed Token)

/-- The tokens that the lexemes stand for, given the groups that are open, innermost first, and the
tokens of the innermost one so far, last first. -/
def nestWith? :
    List (Placed Lexeme) → List Open → List (Placed Token) → Option (List (Placed Token))
  | [], [], done => some done.reverse
  | [], _ :: _, _ => none
  | ⟨start, stop, .tokens code⟩ :: rest, opened, done =>
    nestWith? rest opened ((code.map fun t => ⟨start, stop, t⟩).reverse ++ done)
  | ⟨start, _, .opening d⟩ :: rest, opened, done => nestWith? rest (⟨start, d, done⟩ :: opened) []
  | ⟨_, stop, .closing d⟩ :: rest, group :: opened, done =>
    if group.delimiter = d then
      nestWith? rest opened (⟨group.start, stop, .group d (values done.reverse)⟩ :: group.before)
    else none
  | ⟨_, _, .closing _⟩ :: _, [], _ => none

/-- The token trees that lexemes make up, if their delimiters are balanced. -/
def nest? (lexemes : List (Placed Lexeme)) : Option (List (Placed Token)) :=
  nestWith? lexemes [] []

end Placed

namespace Code

/-- The token trees of a text and their places. -/
def locate? (s : List Char) : Option (List (Placed Token)) :=
  (Lexeme.all? s).bind Placed.nest?

/-- The token trees of a text. -/
def ofChars? (s : List Char) : Option Code :=
  (locate? s).map Placed.values

/-- The token trees of a text. -/
def ofText? (s : String) : Option Code :=
  ofChars? s.toList

end Code

/-- A place between two characters of a text: lines count from one, columns from zero. -/
structure Place where
  line : Nat
  column : Nat
deriving DecidableEq, Repr

namespace Place

/-- The place after a character. -/
def after (p : Place) (c : Char) : Place :=
  if c = '\n' then ⟨p.line + 1, 0⟩ else ⟨p.line, p.column + 1⟩

/-- The place before the character with the given number, counted from zero. -/
def ofOffset (s : List Char) (offset : Nat) : Place :=
  (s.take offset).foldl after ⟨1, 0⟩

end Place

end TextTemplate
