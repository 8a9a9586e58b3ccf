import TextTemplate.Code.Grammar
import TextTemplate.Expansion.Construct

/-!
# A template as an argument

A template is given as a string literal, which the number of lines before it may follow:
`"text", line_offset = 12`.

- `Extent`: characters of the argument that a complaint points at.
- `Invocation.ofTokens`: the arguments read from tokens.
- `Invocation.extent`: the characters that a fault of the template points at.
- `Invocation.expand`: the code of a template that is given as a text of arguments.
- `Refusal.code`: the code that reports why there is none.
-/

namespace TextTemplate

/-- The characters `start`, …, `stop - 1` of a text. -/
structure Extent where
  start : Nat
  stop : Nat
deriving DecidableEq, Repr

namespace Extent

/-- The places of the first character and after the last. -/
def places (e : Extent) (s : List Char) : Place × Place :=
  (.ofOffset s e.start, .ofOffset s e.stop)

/-- The places of what is found missing at the end of a text: its very beginning. -/
def nowhere : Place × Place := (⟨1, 0⟩, ⟨1, 0⟩)

end Extent

namespace Placed

/-- The characters that a complaint about a token points at: of a group, its opening delimiter. -/
def extent (t : Placed Token) : Extent :=
  match t.value with
  | .group _ _ => ⟨t.start, t.start + 1⟩
  | _ => ⟨t.start, t.stop⟩

/-- All characters of a token. -/
def whole (t : Placed Token) : Extent := ⟨t.start, t.stop⟩

end Placed

/-- What is wrong with the arguments. -/
inductive ArgumentCause
  | grammar (complaint : Grammar.Complaint)
  | unknownOption (key : String)
deriving DecidableEq, Repr

namespace ArgumentCause

/-- The cause in words. -/
def message : ArgumentCause → String
  | grammar c => c.message
  | unknownOption key => "unknown template option `" ++ key ++ "`, expected `line_offset`"

end ArgumentCause

/-- Something that is wrong with the arguments, and the characters that it points at, if any. -/
structure ArgumentFault where
  extent : Option Extent
  cause : ArgumentCause
deriving DecidableEq, Repr

/-- A template that was given as arguments. -/
structure Invocation where
  /-- The literal, as it is written. -/
  literal : String
  /-- The characters of the literal. -/
  place : Extent
  /-- The text that the literal stands for. -/
  value : List Char
  /-- The number of lines before the template, if it was given. -/
  lineOffset : Option Nat
deriving DecidableEq, Repr

namespace Invocation

open Grammar

/-- Something is wanted where the tokens go on, or at their end. -/
def refuse {α : Type} (wanted : Wanted) : List (Placed Token) → Except ArgumentFault α
  | [] => .error ⟨none, .grammar (.expected true [wanted])⟩
  | t :: _ => .error ⟨some t.extent, .grammar (.expected false [wanted])⟩

/-- A mark is wanted where the tokens go on, or at their end. -/
def refuseSign {α : Type} (text : String) : List (Placed Token) → Except ArgumentFault α
  | [] => .error ⟨none, .grammar (.expected false [.sign text])⟩
  | t :: _ => .error ⟨some t.extent, .grammar (.expected false [.sign text])⟩

/-- Takes a mark of one character. -/
def takeSign (c : Char) (tokens : List (Placed Token)) :
    Except ArgumentFault (List (Placed Token)) :=
  match tokens with
  | ⟨start, stop, .mark d s⟩ :: rest =>
    if d = c then .ok rest
    else refuseSign (String.singleton c) (⟨start, stop, .mark d s⟩ :: rest)
  | tokens => refuseSign (String.singleton c) tokens

/-- Takes a string literal: what is written, its characters, and what it stands for. -/
def takeString (tokens : List (Placed Token)) :
    Except ArgumentFault (String × Extent × List Char × List (Placed Token)) :=
  match tokens with
  | ⟨start, stop, .literal text⟩ :: rest =>
    match StringLiteral.value? text.toList with
    | some value => .ok (text, ⟨start, stop⟩, value, rest)
    | none => refuse .stringLiteral (⟨start, stop, .literal text⟩ :: rest)
  | tokens => refuse .stringLiteral tokens

/-- Takes the name of the only option. -/
def takeKey (tokens : List (Placed Token)) : Except ArgumentFault (List (Placed Token)) :=
  match tokens with
  | ⟨start, stop, .word w⟩ :: rest =>
    if keywords.contains w then .error ⟨some ⟨start, stop⟩, .grammar (.keyword w)⟩
    else if w = "line_offset" then .ok rest
    else .error ⟨some ⟨start, stop⟩, .unknownOption w⟩
  | tokens => refuse .identifier tokens

/-- The largest number of lines: it has 64 bits. -/
def maxLineOffset : Nat := 0xffffffffffffffff

/-- Takes an integer literal that is not too large. A minus before it belongs to the literal, and
then the number cannot be taken. -/
def takeNumber (tokens : List (Placed Token)) :
    Except ArgumentFault (Nat × List (Placed Token)) :=
  match tokens with
  | ⟨start, stop, .literal text⟩ :: rest =>
    match Number.parts? text.toList with
    | some (n, _) =>
      if n ≤ maxLineOffset then .ok (n, rest)
      else .error ⟨some ⟨start, stop⟩, .grammar (.number .tooLarge)⟩
    | none => refuse .integerLiteral (⟨start, stop, .literal text⟩ :: rest)
  | ⟨start, stop, .mark '-' s⟩ :: ⟨start', stop', .literal text⟩ :: rest =>
    if (Number.parts? text.toList).isSome then
      .error ⟨some ⟨start, stop'⟩, .grammar (.number .notDigits)⟩
    else
      refuse .integerLiteral
        (⟨start, stop, .mark '-' s⟩ :: ⟨start', stop', .literal text⟩ :: rest)
  | tokens => refuse .integerLiteral tokens

/-- Nothing may be left. -/
def finish {α : Type} (a : α) : List (Placed Token) → Except ArgumentFault α
  | [] => .ok a
  | t :: _ => .error ⟨some t.whole, .grammar (.leftover none)⟩

/-- The arguments read from tokens: a string literal, then perhaps a comma and the option, then
perhaps another comma. -/
def ofTokens (tokens : List (Placed Token)) : Except ArgumentFault Invocation := do
  let (literal, place, value, rest) ← takeString tokens
  let result := Invocation.mk literal place value
  if rest.isEmpty then return result none
  let rest ← takeSign ',' rest
  if rest.isEmpty then return result none
  let rest ← takeKey rest
  let rest ← takeSign '=' rest
  let (n, rest) ← takeNumber rest
  if rest.isEmpty then return result (some n)
  let rest ← takeSign ',' rest
  finish (result (some n)) rest

/-! ## Faults of the template -/

/-- Whether the literal is written without escapes: it begins with a quote, and only the two quotes
make it longer than what it stands for. -/
def isVerbatim (i : Invocation) : Bool :=
  i.literal.toList.head? == some '"' &&
    i.literal.utf8ByteSize == (String.ofList i.value).utf8ByteSize + 2

/-- The characters that a fault of the template points at. In a literal without escapes it is the
character whose number in the literal is that of the byte in the template, if the literal has so
many; otherwise it is the literal. -/
def extent (i : Invocation) (f : Fault) : Extent :=
  let start := i.place.start + f.position.offset + 1
  if i.isVerbatim && start + 1 ≤ i.place.stop then ⟨start, start + 1⟩ else i.place

end Invocation

/-- Why arguments do not expand to code. -/
inductive Refusal
  /-- The arguments are wrong. -/
  | arguments (fault : ArgumentFault)
  /-- The template is wrong. -/
  | template (extent : Extent) (lineOffset : Nat) (fault : Fault)
  /-- A name is no identifier. -/
  | identifier (cause : InvalidIdent)
deriving DecidableEq, Repr

namespace Refusal

/-- The reason in words. -/
def message : Refusal → String
  | arguments f => f.cause.message
  | template _ lineOffset f => "template error at " ++ f.display lineOffset
  | identifier cause => cause.message

/-- The characters that the reason points at. -/
def extent? : Refusal → Option Extent
  | arguments f => f.extent
  | template extent _ _ => some extent
  | identifier _ => none

/-- The code that reports the reason when it is compiled. -/
def code (r : Refusal) : Code :=
  Emit.path [] ["core", "compile_error"] ++ Emit.mark '!' ++
    [.group .brace [.ofText r.message]]

end Refusal

namespace Invocation

/-- The code of the template of an invocation. -/
def compile (i : Invocation) : Except Refusal Code :=
  let lineOffset := i.lineOffset.getD 0
  match Template.parse i.value with
  | .error f => .error (.template (i.extent f) lineOffset f)
  | .ok nodes =>
    (Template.compile Emit.defaultRuntime { Options.standard with lineOffset } nodes).mapError
      .identifier

/-- The code of a template that is given as tokens of arguments. -/
def expand (tokens : List (Placed Token)) : Except Refusal Code :=
  match ofTokens tokens with
  | .error f => .error (.arguments f)
  | .ok i => i.compile

end Invocation

end TextTemplate
