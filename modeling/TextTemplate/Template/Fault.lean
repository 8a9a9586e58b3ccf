import TextTemplate.Code.Grammar.Complaint
import TextTemplate.Template.Position

/-!
# What can be wrong with a template

- `Cause`: what is wrong.
- `Fault`: what is wrong and where.
- `Cause.message`: the cause in words.
- `Fault.display`: a fault as it is reported, for a template that begins on a later line of a file.
-/

namespace TextTemplate

/-- The two kinds of text in braces that hold code. -/
inductive Bracing
  | output
  | tag
deriving DecidableEq, Repr

/-- The tags that end or divide a block. -/
inductive Divider
  | otherwise
  | elseIf
  | endIf
  | endFor
deriving DecidableEq, Repr

/-- What is wrong with a template. -/
inductive Cause
  | unclosed (bracing : Bracing)
  | unterminatedLiteral (bracing : Bracing)
  | unterminatedRaw (bracing : Bracing)
  | unclosedComment
  | emptyExpression
  | expression (source : String) (complaint : Grammar.Complaint)
  | tokens
  | binding (complaint : Grammar.Complaint)
  | missingCondition (chained : Bool)
  | loopHead
  | loopPattern (complaint : Grammar.Complaint)
  | loopIterator (complaint : Grammar.Complaint)
  | unknownTag (tag : String)
  | unexpected (divider : Divider)
  | unclosedIf
  | unclosedElse
  | unclosedFor
deriving DecidableEq, Repr

namespace Bracing

/-- The kind of text in braces, in words. -/
def text : Bracing → String
  | output => "`@\x7b` interpolation"
  | tag => "template tag"

end Bracing

namespace Divider

/-- The complaint about a divider that belongs to no open block. -/
def unexpected : Divider → String
  | otherwise => "Unexpected \x7b:else\x7d - not inside an \x7b#if\x7d block"
  | elseIf => "Unexpected \x7b:else if\x7d - not inside an \x7b#if\x7d block"
  | endIf => "Unexpected \x7b/if\x7d"
  | endFor => "Unexpected \x7b/for\x7d"

end Divider

namespace Cause

/-- Whether more text could mend the cause: something is not closed when the template ends. -/
def isOpenEnd : Cause → Bool
  | unclosed _ | unterminatedLiteral _ | unterminatedRaw _ | unclosedComment | unclosedIf
  | unclosedElse | unclosedFor => true
  | _ => false

/-- The cause in words. -/
def message : Cause → String
  | unclosed b => "Unclosed " ++ b.text ++ ": missing `\x7d`"
  | unterminatedLiteral b => "Unterminated literal in " ++ b.text
  | unterminatedRaw b => "Unterminated raw string in " ++ b.text
  | unclosedComment => "Unclosed comment: missing `<\x7d`"
  | emptyExpression => "Empty expression"
  | expression source c => "Invalid Rust expression `" ++ source ++ "`: " ++ c.message
  | tokens => "Invalid Rust tokens: " ++ Grammar.Complaint.unsplit.message
  | binding c => "Invalid binding in \x7b$let\x7d: " ++ c.message
  | missingCondition false => "Missing condition in \x7b#if\x7d"
  | missingCondition true => "Missing condition in \x7b:else if\x7d"
  | loopHead => "Expected \x7b#for pattern in expression\x7d"
  | loopPattern c => "Invalid pattern in \x7b#for\x7d: " ++ c.message
  | loopIterator c => "Invalid iterator in \x7b#for\x7d: " ++ c.message
  | unknownTag tag => "Unknown template tag `\x7b" ++ tag ++ "\x7d`"
  | unexpected d => d.unexpected
  | unclosedIf => "Unclosed \x7b#if\x7d block: missing \x7b/if\x7d"
  | unclosedElse => "Unclosed \x7b:else\x7d branch: missing \x7b/if\x7d"
  | unclosedFor => "Unclosed \x7b#for\x7d block: missing \x7b/for\x7d"

end Cause

/-- Something that is wrong at a place of a template. -/
structure Fault where
  position : Position
  cause : Cause
deriving DecidableEq, Repr

namespace Fault

/-- What is wrong, in words. -/
def message (f : Fault) : String := f.cause.message

/-- The line of a fault when `lineOffset` lines stand before the template. -/
def line (f : Fault) (lineOffset : Nat) : Nat := f.position.line + lineOffset

/-- The fault as it is reported. -/
def display (f : Fault) (lineOffset : Nat) : String :=
  "line " ++ toString (f.line lineOffset) ++ ", column " ++ toString f.position.column ++ ": " ++
    f.message

end Fault

end TextTemplate
