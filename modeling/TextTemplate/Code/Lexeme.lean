import TextTemplate.Code.Comment
import TextTemplate.Code.Printer
import TextTemplate.Code.StringLiteral

/-!
# Lexemes

The text of a piece of code is first split into lexemes: delimiters and single tokens, without
regard to which delimiters belong together.

- `Lexeme`: an opening or closing delimiter, or the tokens that one piece of text stands for.
- `Placed`: a value with the characters of the text that it was read from.
- `Lexeme.next?`: the lexeme at the front of a text.
- `Lexeme.all?`: the lexemes of a whole text. A text that does not split has none.
-/

namespace TextTemplate

/-- A value read from the characters `start`, …, `stop - 1` of a text. -/
structure Placed (α : Type) where
  start : Nat
  stop : Nat
  value : α
deriving DecidableEq, Repr

/-- A delimiter, or what stands between two of them. A documentation comment stands for more than
one token. -/
inductive Lexeme
  | opening (delimiter : Delimiter)
  | closing (delimiter : Delimiter)
  | tokens (code : Code)
deriving Repr

namespace Lexeme

/-! ## Single lexemes -/

/-- The characters that are marks. -/
def signs : List Char := "~!@#$%^&*-=+|;:,<.>/?'".toList

/-- The mark at the front of a text, and the rest. A comment does not begin with a mark. -/
def sign? : List Char → Option (Char × List Char)
  | '/' :: '/' :: _ => none
  | '/' :: '*' :: _ => none
  | c :: s => if c ∈ signs then some (c, s) else none
  | [] => none

/-- Whether a text starts with one of some words. -/
def startsWithAny (openings : List (List Char)) (s : List Char) : Bool :=
  openings.any fun o => o.isPrefixOf s

/-- What a word may not look like: the beginning of a literal with a letter in front. -/
def literalOpenings : List (List Char) :=
  ["r\"", "r#\"", "r##", "b\"", "b'", "br\"", "br#", "c\"", "cr\"", "cr#"].map String.toList

/-- The word at the front of a text, and the rest. -/
def word? (s : List Char) : Option (Token × List Char) :=
  if startsWithAny literalOpenings s then none
  else (Word.splitAny? s).map fun (w, r) => (.word (String.ofList w), r)

/-- The mark at the front of a text as a token. A single quote is a mark where it begins a lifetime:
a word follows, and then no further quote. -/
def mark? (s : List Char) : Option (Token × List Char) :=
  match sign? s with
  | none => none
  | some ('\'', r) =>
    match Word.splitAny? r with
    | some (_, after) =>
      -- A plain word that touches a `#` is the beginning of something else.
      if after.head? == some '\'' || (after.head? == some '#' && !"r#".toList.isPrefixOf r) then
        none
      else some (.mark '\'' .joint, r)
    | none => none
  | some (c, r) => some (.mark c (if (sign? r).isSome then .joint else .alone), r)

/-- What follows the literal at the front of a text. -/
def dropLiteral? (s : List Char) : Option (List Char) :=
  match StringLiteral.string? s with
  | some (_, r) => some (Word.dropSuffix r)
  | none =>
    match StringLiteral.character? s with
    | some (_, r) => some (Word.dropSuffix r)
    | none => (Number.dropFloat? s).or (Number.dropInt? s)

/-- The literal at the front of a text, as written, and the rest. -/
def literal? (s : List Char) : Option (Token × List Char) :=
  (dropLiteral? s).map fun r => (.literal (String.ofList (s.take (s.length - r.length))), r)

/-- The text of a token that stands for a place where an error was found before. -/
def errorMark : List Char := "(/*ERROR*/)".toList

/-- The token at the front of a text, and the rest. -/
def leaf? (s : List Char) : Option (Token × List Char) :=
  match literal? s with
  | some found => some found
  | none =>
    match mark? s with
    | some found => some found
    | none =>
      match word? s with
      | some found => some found
      | none =>
        if errorMark.isPrefixOf s then
          some (.literal (String.ofList errorMark), s.drop errorMark.length)
        else none

/-- The attribute that a documentation comment stands for. -/
def ofDocumentation (d : Comment.Documentation) : Code :=
  (if d.inner then [.mark '#' .alone, .mark '!' .alone] else [.mark '#' .alone]) ++
    [.group .bracket [.word "doc", .mark '=' .alone, .ofText (String.ofList d.text)]]

/-- The delimiter at the front of a text. -/
def delimiter? : List Char → Option (Lexeme × List Char)
  | [] => none
  | c :: s =>
    if errorMark.isPrefixOf (c :: s) then none
    else
      match Delimiter.ofOpening? c with
      | some d => some (.opening d, s)
      | none => (Delimiter.ofClosing? c).map fun d => (.closing d, s)

/-- The lexeme at the front of a text, and the rest. -/
def next? (s : List Char) : Option (Lexeme × List Char) :=
  match Comment.documentation? s with
  | some (d, r) => some (.tokens (ofDocumentation d), r)
  | none =>
    match delimiter? s with
    | some found => some found
    | none => (leaf? s).map fun (t, r) => (.tokens [t], r)

/-! ## All lexemes of a text -/

/-- The lexemes of a text of which `start` characters have been read before. -/
def from? (start : Nat) (s : List Char) : Option (List (Placed Lexeme)) :=
  let s' := Comment.skip s
  if s' = [] then some []
  else
    match next? s' with
    | none => none
    | some (lexeme, r) =>
      if r.length < s'.length then
        let before := start + (s.length - s'.length)
        let after := before + (s'.length - r.length)
        (from? after r).map fun rest => ⟨before, after, lexeme⟩ :: rest
      else none
termination_by s.length
decreasing_by
  have h : s'.length ≤ s.length := Comment.length_skip s
  omega

/-- The lexemes of a text. A byte order mark before it is passed over. -/
def all? : List Char → Option (List (Placed Lexeme))
  | '\ufeff' :: s => from? 1 s
  | s => from? 0 s

end Lexeme

end TextTemplate
