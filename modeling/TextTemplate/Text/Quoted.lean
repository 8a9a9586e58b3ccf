import TextTemplate.Text.Printable

/-!
# Quoted text

A text inside double quotes is written so that every character in it can be seen: control characters
and quotes have short escapes, whatever else would not show is written by its number.

- `escape`: the written form of one character.
- `escapeAll`: every character on its own, as diagnostics show a text.
- `encode`: the inner text of a string literal. It differs from `escapeAll` only for NUL, whose
  short form would swallow an octal digit that follows it.
- `quote`, `quoteAll`: the same between double quotes.
-/

namespace TextTemplate

namespace Text

/-- The written form of a character; the single quote needs none. -/
def escape (c : Char) : List Char :=
  if c = '\x00' then ['\\', '0']
  else if c = '\t' then ['\\', 't']
  else if c = '\r' then ['\\', 'r']
  else if c = '\n' then ['\\', 'n']
  else if c = '\\' then ['\\', '\\']
  else if c = '"' then ['\\', '"']
  else if isPrintable c then [c]
  else ['\\', 'u', '{'] ++ Nat.toDigits 16 c.toNat ++ ['}']

/-- Every character in its written form. -/
def escapeAll (s : List Char) : List Char :=
  s.flatMap escape

/-- Whether a text goes on with a digit that an octal escape would take. -/
def startsOctal : List Char → Bool
  | c :: _ => '0' ≤ c && c ≤ '7'
  | [] => false

/-- The inner text of a string literal: NUL before an octal digit is written in full. -/
def encode : List Char → List Char
  | [] => []
  | c :: s =>
    (if c = '\x00' && startsOctal s then ['\\', 'x', '0', '0'] else escape c) ++ encode s

@[simp] theorem encode_nil : encode [] = [] := rfl

/-- A string literal whose value is the text. -/
def quote (s : String) : String :=
  String.ofList ('"' :: encode s.toList ++ ['"'])

/-- A text as diagnostics show it. -/
def quoteAll (s : String) : String :=
  String.ofList ('"' :: escapeAll s.toList ++ ['"'])

end Text

end TextTemplate
