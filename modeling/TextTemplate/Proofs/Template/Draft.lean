import Mathlib.Data.List.Infix
import TextTemplate.Proofs.Template.Closed
import TextTemplate.Template.Node

/-!
# Templates as they are written

A draft is a node together with the text it is written as: for each piece of code its source, as it
stands in the braces. The parts of a draft carry what makes them readable, so that a draft that
could not be written down does not exist.

- `Snippet`, `Effect`, `Condition`, `LoopHead`: code that may stand in its braces, and what it is
  accepted as.
- `Plain`, `Remark`: text and remarks in which no construct begins and no remark ends.
- `Draft`, `Draft.Rest`: the tree of them.
- `Draft.print`, `Draft.printAll`: the text of a template; the sign `@` of a text is doubled.
- `Draft.node`, `Draft.nodes`: what is left without the sources.
- `Draft.spacedAll`: on no level two texts stand next to each other.
-/

namespace TextTemplate

/-! ## Parts -/

/-- Code in braces: its text may stand there, and is accepted. -/
structure Snippet (accept : List Char → Except Cause Code) where
  source : List Char
  code : Code
  closed : Braced.Closed source
  accepted : accept source = .ok code

/-- An effect: an expression without white space around it. -/
structure Effect extends Snippet Piece.expression where
  trimmed : Text.trim source = source

/-- A condition: some code without white space around it. -/
structure Condition extends Snippet Piece.lex where
  trimmed : Text.trim source = source
  ne_nil : source ≠ []

/-- The text of the head of a loop. -/
def LoopHead.join (pattern iterator : List Char) : List Char :=
  pattern ++ " in ".toList ++ iterator

/-- The head of a loop: a pattern and an iterator that are told apart by the word between them. -/
structure LoopHead where
  pattern : List Char
  iterator : List Char
  patternCode : Code
  iteratorCode : Code
  closed : Braced.Closed (LoopHead.join pattern iterator)
  trimmed : Text.trim (LoopHead.join pattern iterator) = LoopHead.join pattern iterator
  accepted : (Piece.lex (LoopHead.join pattern iterator) >>= Piece.loopHead) =
    .ok (patternCode, iteratorCode)

/-- The characters that make a construct of an opening brace before them. -/
def braceSigns : List Char := '>' :: Cut.tagSigns

/-- A text in which no brace begins a construct. -/
def NoConstruct (s : List Char) : Prop := ∀ sign ∈ braceSigns, ¬ ['{', sign] <:+: s

instance (s : List Char) : Decidable (NoConstruct s) :=
  List.decidableBAll (fun sign => ¬ ['{', sign] <:+: s) braceSigns

theorem NoConstruct.tail {c : Char} {s : List Char} (h : NoConstruct (c :: s)) : NoConstruct s :=
  fun sign hsign hpart => h sign hsign (hpart.trans (List.suffix_cons c s).isInfix)

/-- Some text in which no brace begins a construct. -/
structure Plain where
  chars : List Char
  ne_nil : chars ≠ []
  no_construct : NoConstruct chars

/-- A remark without white space around it that does not end itself. -/
structure Remark where
  chars : List Char
  trimmed : Text.trim chars = chars
  no_end : ¬ ['<', '}'] <:+: chars

/-! ## Trees -/

mutual

/-- A part of a template as it is written. -/
inductive Draft
  | text (plain : Plain)
  | output (code : Snippet Piece.expression)
  | effect (code : Effect)
  | remark (remark : Remark)
  | choice (condition : Condition) (body : List Draft) (rest : Draft.Rest)
  | loop (head : LoopHead) (body : List Draft)

/-- What is left of a choice after one of its bodies. -/
inductive Draft.Rest
  | nothing
  | otherwise (body : List Draft)
  | elseIf (condition : Condition) (body : List Draft) (rest : Draft.Rest)

end

namespace Draft

/-! ## Printing -/

/-- A character of text as it is written. -/
def writtenChar (c : Char) : Cut :=
  if c = '@' then .doubledAt else .text c

/-- Text as it is written. -/
def writtenChars (s : List Char) : List Char :=
  s.flatMap fun c => (writtenChar c).source

theorem writtenChars_cons (c : Char) (s : List Char) :
    writtenChars (c :: s) = (writtenChar c).source ++ writtenChars s := List.flatMap_cons

/-- A character that is written is the first of what is written for it. -/
theorem exists_source_writtenChar (c : Char) : ∃ s, (writtenChar c).source = c :: s := by
  rw [writtenChar]
  split
  · next h => exact ⟨['@'], by rw [h]; rfl⟩
  · exact ⟨[], rfl⟩

/-- A tag with more text after its word. -/
def tag (word : String) (s : List Char) : Cut :=
  .tag (word.toList ++ ' ' :: s)

mutual

/-- The text of a draft. -/
def print : Draft → List Char
  | text plain => writtenChars plain.chars
  | output code => (Cut.output code.source).source
  | effect code => (tag "$do" code.source).source
  | remark r => (Cut.comment r.chars).source
  | choice condition body rest =>
    (tag "#if" condition.source).source ++ (printAll body ++ printRest rest)
  | loop head body =>
    (tag "#for" (LoopHead.join head.pattern head.iterator)).source ++
      (printAll body ++ (Cut.tag "/for".toList).source)

/-- The text of drafts, one after the other. -/
def printAll : List Draft → List Char
  | [] => []
  | draft :: drafts => print draft ++ printAll drafts

/-- The text of a choice after one of its bodies. -/
def printRest : Rest → List Char
  | .nothing => (Cut.tag "/if".toList).source
  | .otherwise body =>
    (Cut.tag ":else".toList).source ++ (printAll body ++ (Cut.tag "/if".toList).source)
  | .elseIf condition body rest =>
    (tag ":else if" condition.source).source ++ (printAll body ++ printRest rest)

end

/-! ## Nodes -/

mutual

/-- The node that a draft is the text of. -/
def node : Draft → Node
  | text plain => .text (String.ofList plain.chars)
  | output code => .chunk .output code.code
  | effect code => .chunk .effect code.code
  | remark r => .chunk (.other "comment") [.ofText (String.ofList r.chars)]
  | choice condition body rest => .choice condition.code (nodes body) (alternative rest)
  | loop head body => .loop head.patternCode head.iteratorCode (nodes body)

/-- The nodes that drafts are the text of. -/
def nodes : List Draft → List Node
  | [] => []
  | draft :: drafts => node draft :: nodes drafts

/-- What is chosen after one of the bodies. -/
def alternative : Rest → Alternative
  | .nothing => .nothing
  | .otherwise body => .otherwise (nodes body)
  | .elseIf condition body rest => .elseIf condition.code (nodes body) (alternative rest)

end

/-! ## Texts next to each other -/

/-- Whether a draft is text. -/
def isText : Draft → Bool
  | text _ => true
  | _ => false

/-- Whether the first of some drafts is text. -/
def startsWithText : List Draft → Bool
  | [] => false
  | draft :: _ => isText draft

mutual

/-- Whether the bodies in a draft are spaced. -/
def spaced : Draft → Bool
  | choice _ body rest => spacedAll body && spacedRest rest
  | loop _ body => spacedAll body
  | _ => true

/-- Whether neither these drafts nor those in them have two texts next to each other. -/
def spacedAll : List Draft → Bool
  | [] => true
  | draft :: drafts =>
    spaced draft && !(isText draft && startsWithText drafts) && spacedAll drafts

/-- Whether the bodies after one of the bodies of a choice are spaced. -/
def spacedRest : Rest → Bool
  | .nothing => true
  | .otherwise body => spacedAll body
  | .elseIf _ body rest => spacedAll body && spacedRest rest

end

end Draft

end TextTemplate
