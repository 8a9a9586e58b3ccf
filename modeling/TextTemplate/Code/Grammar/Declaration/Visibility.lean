import TextTemplate.Code.Grammar.Rules

/-!
# Visibility

- `visibility`: who may see what is declared. Parentheses after `pub` belong to it only if they name
  a place; otherwise they are the type of a field.
-/

namespace TextTemplate

namespace Grammar

/-- Who may see what is declared; the answer is whether anything is said about it. -/
def visibility : Parser Bool := do
  if !(← keyword? "pub") then return false
  if let .group .paren body :: _ := (← get).tokens then
    if ["crate", "self", "super"].any (startsWord · body) then
      if (afterTree body).isEmpty then group .paren anyWord
    else if startsWord "in" body then
      group .paren do
        keyword "in"
        plainPath
  return true

end Grammar

end TextTemplate
