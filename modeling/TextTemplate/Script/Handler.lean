import TextTemplate.Program.State

/-!
# Handlers of other tags

Ways of treating an expression whose tag is neither output nor effect, beside the standard one.

- `Handler`: the ways.
- `Handler.fallback`: a handler as a fallback of a compilation.
-/

namespace TextTemplate

/-- A way of treating an expression with a tag of its own. -/
inductive Handler
  /-- Drops remarks and runs everything else. -/
  | standard
  /-- Puts the tag into the text. -/
  | text
  /-- Runs the expression twice. -/
  | twice
  /-- Binds the value to a fixed name and puts it into the text. -/
  | bind (id : Ident)
  /-- Puts the value of a fixed name into the text. -/
  | ref (id : Ident)
  /-- Puts the size of the block into the text. -/
  | count
  /-- Does the standard thing and puts the tag into the text. -/
  | standardText
deriving DecidableEq, Repr

namespace Handler

/-- The size of a block in words. -/
def describe {ε : Type} (b : Block ε) : String :=
  if b.isEmpty then "first"
  else toString b.statements.length ++ "/" ++ toString b.fragments.length

/-- A handler as a fallback. -/
def fallback {ε : Type} : Handler → Fallback ε
  | standard => Fallback.standard
  | text => fun b tag _ => b.addFragment (.text ("<" ++ tag ++ ">"))
  | twice => fun b _ e => (b.addStatement (.effect e)).addStatement (.effect e)
  | bind id => fun b _ e => b.addValue id e
  | ref id => fun b _ _ => b.addFragment (.ref id)
  | count => fun b _ _ => b.addFragment (.text (describe b))
  | standardText => fun b tag e =>
    (Fallback.standard b tag e).addFragment (.text ("[" ++ tag ++ "]"))

end Handler

end TextTemplate
