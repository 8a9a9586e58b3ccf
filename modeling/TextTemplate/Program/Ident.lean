import TextTemplate.Code.Number
import TextTemplate.Text.Quoted

/-!
# Identifiers of a program

A program gives names to values. The names are made of a stem and a number, and any text may be the
stem; only when code is made from the program does it matter whether the name is an identifier
there.

- `Ident`: a name; `Ident.numbered` makes one.
- `Ident.toToken`: the name as a word of code, or why it is none.
- `InvalidIdent.message`: the reason in words.
-/

namespace TextTemplate

/-- A name of a value. -/
structure Ident where
  name : String
deriving DecidableEq, Repr, Inhabited

/-- Why a name is no identifier. -/
inductive InvalidIdent
  /-- It has only digits. -/
  | number
  /-- It has a character that an identifier does not have there. -/
  | malformed (name : String)
deriving DecidableEq, Repr

namespace Ident

/-- The name with a stem and a number. -/
def numbered (stem : String) (n : Nat) : Ident := ⟨stem ++ toString n⟩

@[simp] theorem name_numbered (stem : String) (n : Nat) :
    (numbered stem n).name = stem ++ toString n := rfl

/-- The name as a word of code. -/
def toToken (id : Ident) : Except InvalidIdent Token :=
  if id.name.toList.all Number.isDecimal then .error .number
  else if Word.isPlain id.name.toList then .ok (.word id.name)
  else .error (.malformed id.name)

end Ident

namespace InvalidIdent

/-- The reason in words. -/
def message : InvalidIdent → String
  | number => "Ident cannot be a number; use Literal instead"
  | malformed name => Text.quoteAll name ++ " is not a valid Ident"

end InvalidIdent

end TextTemplate
