import TextTemplate.Code.Token
import TextTemplate.Text.Quoted

/-!
# The text of a piece of code

One space stands between two tokens, except after a mark that touches the next one. Braces keep a
space on their inner sides, the other delimiters do not.

- `Code.chars`: the text as characters.
- `Code.text`: the same as a string.
- `Token.ofText`: the string literal whose value is a given text.
-/

namespace TextTemplate

namespace Token

/-- Whether no space follows a token. -/
def sticks : Token → Bool
  | mark _ .joint => true
  | _ => false

mutual

/-- The characters of one token tree. -/
def chars : Token → List Char
  | word name => name.toList
  | mark sign _ => [sign]
  | literal text => text.toList
  | group .brace [] => ['{', ' ', '}']
  | group .brace body => ['{', ' '] ++ charsList body ++ [' ', '}']
  | group d body => d.opening :: charsList body ++ [d.closing]

/-- The characters of a list of token trees. -/
def charsList : List Token → List Char
  | [] => []
  | [t] => t.chars
  | t :: rest => t.chars ++ (if t.sticks then [] else [' ']) ++ charsList rest

end

/-- The literal that stands for a text. -/
def ofText (s : String) : Token :=
  literal (Text.quote s)

end Token

namespace Code

/-- The characters of a piece of code. -/
def chars (code : Code) : List Char := Token.charsList code

/-- The text of a piece of code. -/
def text (code : Code) : String := String.ofList code.chars

@[simp] theorem chars_nil : chars [] = [] := rfl

@[simp] theorem chars_singleton (t : Token) : chars [t] = t.chars := rfl

end Code

end TextTemplate
