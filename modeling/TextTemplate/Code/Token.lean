/-!
# Tokens of the embedded code

Templates embed pieces of code. A piece of code is a list of token trees: words, marks, literals,
and groups, which hold everything between an opening delimiter and the one that closes it.

- `Token`, `Code`: the trees and the lists of them.
- `Token.size`, `Code.size`: the number of tokens at every depth.
- `Code.joined`: a run of marks of which each touches the next, as the operators of several
  characters are written.
-/

namespace TextTemplate

/-- Whether a mark touches the mark that follows it. -/
inductive Spacing
  | alone
  | joint
deriving DecidableEq, Repr, Inhabited

/-- The three pairs of delimiters. -/
inductive Delimiter
  | paren
  | brace
  | bracket
deriving DecidableEq, Repr, Inhabited

namespace Delimiter

/-- The character that opens a group. -/
def opening : Delimiter → Char
  | paren => '('
  | brace => '{'
  | bracket => '['

/-- The character that closes a group. -/
def closing : Delimiter → Char
  | paren => ')'
  | brace => '}'
  | bracket => ']'

/-- The delimiter that a character opens. -/
def ofOpening? (c : Char) : Option Delimiter :=
  if c = '(' then some paren else if c = '{' then some brace else if c = '[' then some bracket
  else none

/-- The delimiter that a character closes. -/
def ofClosing? (c : Char) : Option Delimiter :=
  if c = ')' then some paren else if c = '}' then some brace else if c = ']' then some bracket
  else none

@[simp] theorem ofOpening?_opening (d : Delimiter) : ofOpening? d.opening = some d := by
  cases d <;> rfl

@[simp] theorem ofClosing?_closing (d : Delimiter) : ofClosing? d.closing = some d := by
  cases d <;> rfl

end Delimiter

/-- A token tree. Words keep the `r#` of their raw form and literals are kept as written. -/
inductive Token
  | word (name : String)
  | mark (sign : Char) (spacing : Spacing)
  | literal (text : String)
  | group (delimiter : Delimiter) (body : List Token)
deriving Repr, Inhabited

/-- A piece of code. -/
abbrev Code := List Token

namespace Token

mutual

/-- Equality of token trees is decidable, by recursion on the first. -/
def decEq : (a b : Token) → Decidable (a = b)
  | word m, word n => if h : m = n then isTrue (h ▸ rfl) else isFalse fun e => h (word.inj e)
  | mark c s, mark d t =>
    if h : c = d ∧ s = t then isTrue (h.1 ▸ h.2 ▸ rfl) else isFalse fun e => h (mark.inj e)
  | literal m, literal n =>
    if h : m = n then isTrue (h ▸ rfl) else isFalse fun e => h (literal.inj e)
  | group d xs, group e ys =>
    if h : d = e then
      match decEqList xs ys with
      | isTrue h' => isTrue (h ▸ h' ▸ rfl)
      | isFalse h' => isFalse fun e => h' (group.inj e).2
    else isFalse fun e => h (group.inj e).1
  | word _, mark _ _ | word _, literal _ | word _, group _ _
  | mark _ _, word _ | mark _ _, literal _ | mark _ _, group _ _
  | literal _, word _ | literal _, mark _ _ | literal _, group _ _
  | group _ _, word _ | group _ _, mark _ _ | group _ _, literal _ => isFalse nofun

/-- Equality of lists of token trees. -/
def decEqList : (xs ys : List Token) → Decidable (xs = ys)
  | [], [] => isTrue rfl
  | [], _ :: _ | _ :: _, [] => isFalse nofun
  | x :: xs, y :: ys =>
    match decEq x y, decEqList xs ys with
    | isTrue h, isTrue h' => isTrue (h ▸ h' ▸ rfl)
    | isFalse h, _ => isFalse fun e => h (List.cons.inj e).1
    | _, isFalse h => isFalse fun e => h (List.cons.inj e).2

end

instance : DecidableEq Token := decEq

mutual

/-- The number of tokens in a tree, a group itself included. -/
def size : Token → Nat
  | word _ | mark _ _ | literal _ => 1
  | group _ body => 1 + sizeList body

/-- The number of tokens in a list of trees. -/
def sizeList : List Token → Nat
  | [] => 0
  | t :: rest => t.size + sizeList rest

end

theorem size_pos (t : Token) : 0 < t.size := by
  cases t <;> simp only [size] <;> omega

end Token

namespace Code

/-- The number of tokens in a piece of code, at every depth. -/
def size (code : Code) : Nat := Token.sizeList code

@[simp] theorem size_nil : size [] = 0 := rfl

@[simp] theorem size_cons (t : Token) (code : Code) : size (t :: code) = t.size + size code := rfl

@[simp] theorem size_append (a b : Code) : size (a ++ b) = size a + size b := by
  induction a with
  | nil => simp
  | cons t a ih => simp [ih, Nat.add_assoc]

/-- The marks of one operator: each touches the next, the last stands alone. -/
def joined : List Char → Code
  | [] => []
  | [c] => [.mark c .alone]
  | c :: rest => .mark c .joint :: joined rest

end Code

end TextTemplate
