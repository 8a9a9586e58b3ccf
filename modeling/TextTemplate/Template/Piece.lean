import TextTemplate.Code.Grammar
import TextTemplate.Program.Marker
import TextTemplate.Template.Braced
import TextTemplate.Template.Fault

/-!
# Pieces of a template

A template is a sequence of pieces: characters of text, pieces of code with their markers, and the
tags of blocks. Which tags belong together is of no concern here.

- `Cut`: the front of a template as text that is not yet understood.
- `Cut.next`: the first cut of a template; `Cut.append_of_next` says that nothing is lost.
- `Piece`: a cut that is understood; `Piece.ofCut` checks the code in it.
- `Piece.scan`: the pieces of a template, up to the first that is wrong.
-/

namespace TextTemplate

/-! ## Cuts -/

/-- What stands at the front of a template. -/
inductive Cut
  /-- A character of text. -/
  | text (c : Char)
  /-- The sign `@`, written twice. -/
  | doubledAt
  /-- Code of which the value is output. -/
  | output (inside : List Char)
  /-- A remark. -/
  | comment (inside : List Char)
  /-- A tag. -/
  | tag (inside : List Char)
deriving Repr

namespace Cut

/-- The characters that begin a tag after an opening brace. -/
def tagSigns : List Char := ['#', ':', '/', '$']

/-- A remark up to the end of it, and what follows. -/
def splitComment? : List Char → Option (List Char × List Char)
  | [] => none
  | '<' :: '}' :: s => some ([], s)
  | c :: s => (splitComment? s).map fun (t, r) => (c :: t, r)

/-- The cause for text in braces that does not end. -/
def causeOf (bracing : Bracing) : OpenEnd → Cause
  | .braces => .unclosed bracing
  | .quoted => .unterminatedLiteral bracing
  | .raw => .unterminatedRaw bracing

/-- Text in braces and what follows, as a cut. -/
def braced (bracing : Bracing) (make : List Char → Cut) (s : List Char) :
    Except Cause (Cut × List Char) :=
  match Braced.read s with
  | .ok (t, r) => .ok (make t, r)
  | .error e => .error (causeOf bracing e)

/-- The first cut of a template that begins with the character `c`, and what follows. -/
def next (c : Char) (s : List Char) : Except Cause (Cut × List Char) :=
  if c = '@' then
    match s with
    | '@' :: r => .ok (doubledAt, r)
    | '{' :: r => braced .output output r
    | _ => .ok (text '@', s)
  else if c = '{' then
    match s with
    | '>' :: r =>
      match splitComment? r with
      | some (t, r) => .ok (comment t, r)
      | none => .error .unclosedComment
    | d :: _ => if d ∈ tagSigns then braced .tag tag s else .ok (text '{', s)
    | [] => .ok (text '{', s)
  else .ok (text c, s)

/-- The text that a cut was taken from. -/
def source : Cut → List Char
  | text c => [c]
  | doubledAt => ['@', '@']
  | output t => '@' :: '{' :: t ++ ['}']
  | comment t => '{' :: '>' :: t ++ ['<', '}']
  | tag t => '{' :: t ++ ['}']

theorem append_of_splitComment? {s t r : List Char} (h : splitComment? s = some (t, r)) :
    t ++ '<' :: '}' :: r = s := by
  fun_induction splitComment? s generalizing t with
  | case1 => simp at h
  | case2 =>
    obtain ⟨rfl, rfl⟩ := by simpa using h
    rfl
  | case3 c s _ ih =>
    simp only [Option.map_eq_some_iff, Prod.exists, Prod.mk.injEq] at h
    obtain ⟨u, v, hu, rfl, rfl⟩ := h
    simp [ih hu]

theorem eq_ok_of_braced {bracing : Bracing} {make : List Char → Cut} {s r : List Char} {cut : Cut}
    (h : braced bracing make s = .ok (cut, r)) :
    ∃ t, cut = make t ∧ t ++ '}' :: r = s := by
  unfold braced at h
  split at h
  · next t r' hr =>
    simp only [Except.ok.injEq, Prod.mk.injEq] at h
    obtain ⟨rfl, rfl⟩ := h
    exact ⟨t, rfl, Braced.append_of_read hr⟩
  · simp at h

/-- A cut and what follows it make up the template. -/
theorem append_of_next {c : Char} {s r : List Char} {cut : Cut} (h : next c s = .ok (cut, r)) :
    cut.source ++ r = c :: s := by
  unfold next at h
  split at h
  · subst c
    split at h
    · cases h
      rfl
    · obtain ⟨t, rfl, rfl⟩ := eq_ok_of_braced h
      simp [source]
    · cases h
      rfl
  · split at h
    · subst c
      split at h
      · split at h
        · next hs =>
          cases h
          simp [source, ← append_of_splitComment? hs]
        · simp at h
      · split at h
        · obtain ⟨t, rfl, ht⟩ := eq_ok_of_braced h
          simp [source, ht]
        · cases h
          rfl
      · cases h
        rfl
    · cases h
      rfl

/-- Every cut takes something. -/
theorem length_source_pos (cut : Cut) : 0 < cut.source.length := by
  cases cut <;> simp [source]

/-- What follows a cut is shorter than the template. -/
theorem length_of_next {c : Char} {s r : List Char} {cut : Cut} (h : next c s = .ok (cut, r)) :
    r.length ≤ s.length := by
  have h := congrArg List.length (append_of_next h)
  have := cut.length_source_pos
  simp only [List.length_append, List.length_cons] at h
  omega

end Cut

/-! ## Pieces -/

/-- A tag that ends or divides a block. -/
inductive Terminator
  | otherwise
  | elseIf (condition : Code)
  | endIf
  | endFor
deriving Repr

namespace Terminator

/-- The kind of a terminator, without its condition. -/
def divider : Terminator → Divider
  | otherwise => .otherwise
  | elseIf _ => .elseIf
  | endIf => .endIf
  | endFor => .endFor

end Terminator

/-- A piece of a template, with its position where a later complaint may point at it. -/
inductive Piece
  /-- A character of text. -/
  | char (c : Char)
  /-- Code and what it is for. -/
  | chunk (marker : Marker) (code : Code)
  /-- The beginning of a choice. -/
  | openIf (position : Position) (condition : Code)
  /-- The beginning of a loop. -/
  | openFor (position : Position) (pattern iterator : Code)
  /-- The end or division of a block. -/
  | terminator (position : Position) (terminator : Terminator)
  /-- Something that is wrong. Nothing follows it. -/
  | fault (fault : Fault)
deriving Repr

namespace Piece

open Text

/-- The code in a text. -/
def lex (s : List Char) : Except Cause Code :=
  match Code.ofChars? s with
  | some code => .ok code
  | none => .error .tokens

/-- The expression in a text. -/
def expression (s : List Char) : Except Cause Code :=
  if trim s = [] then .error .emptyExpression
  else
    match Grammar.split s with
    | .error c => .error (.expression (String.ofList (trim s)) c)
    | .ok code =>
      match Grammar.checkExpression code with
      | .ok _ => .ok code
      | .error c => .error (.expression (String.ofList (trim s)) c)

/-- A condition is only split into tokens, so that it may bind a pattern. -/
def condition (chained : Bool) (s : List Char) : Except Cause Code :=
  if s = [] then .error (.missingCondition chained) else lex s

/-- The code before and after the first word `in` that is in no group. -/
def splitAtIn? (code : Code) : Option (Code × Code) :=
  match code.span (· ≠ .word "in") with
  | (pattern, _ :: iterator) => some (pattern, iterator)
  | (_, []) => none

/-- The pattern and the iterator of a loop. -/
def loopHead (code : Code) : Except Cause (Code × Code) :=
  match splitAtIn? code with
  | none => .error .loopHead
  | some (pattern, iterator) =>
    if pattern = [] ∨ iterator = [] then .error .loopHead
    else
      match Grammar.checkPattern pattern with
      | .error c => .error (.loopPattern c)
      | .ok _ =>
        match Grammar.checkExpression iterator with
        | .error c => .error (.loopIterator c)
        | .ok _ => .ok (pattern, iterator)

/-- The binding of a pattern. The semicolon that ends it is no part of its code. -/
def binding (s : List Char) : Except Cause Code :=
  let text := "let ".toList ++ s
  match Grammar.split (text ++ [';']) with
  | .error c => .error (.binding c)
  | .ok code =>
    match Grammar.checkLet code with
    | .error c => .error (.binding c)
    | .ok _ => lex text

/-- What follows a word at the front of a tag, trimmed, if the word ends there. -/
def after? (word : String) (tag : List Char) : Option (List Char) :=
  let w := word.toList
  if w.isPrefixOf tag then
    match tag.drop w.length with
    | [] => some []
    | c :: s => if isBlank c then some (trim (c :: s)) else none
  else none

/-- The piece that a tag at a position stands for, given its text without the white space around
it. -/
def ofTrimmedTag (p : Position) (tag : List Char) : Except Cause Piece :=
  if let some rest := after? "#if" tag then
    (condition false rest).map (openIf p)
  else if let some rest := after? "#for" tag then do
    let (pattern, iterator) ← loopHead (← lex rest)
    return openFor p pattern iterator
  else if after? ":else" tag = some [] then .ok (terminator p .otherwise)
  else if let some rest := (after? ":else" tag).bind (after? "if") then
    (condition true rest).map fun code => terminator p (.elseIf code)
  else if tag = "/if".toList then .ok (terminator p .endIf)
  else if tag = "/for".toList then .ok (terminator p .endFor)
  else if let some rest := after? "$do" tag then
    (expression rest).map (chunk .effect)
  else if let some rest := after? "$let" tag then
    (binding rest).map (chunk .effect)
  else .error (.unknownTag (String.ofList tag))

/-- The piece that a tag at a position stands for. -/
def ofTag (p : Position) (tag : List Char) : Except Cause Piece :=
  ofTrimmedTag p (trim tag)

/-- The code that a remark stands for: a literal with its text, which is dropped later. -/
def ofComment (s : List Char) : Piece :=
  chunk (.other "comment") [.ofText (String.ofList (trim s))]

/-- The piece that a cut at a position stands for. -/
def ofCut (p : Position) : Cut → Except Cause Piece
  | .text c => .ok (char c)
  | .doubledAt => .ok (char '@')
  | .output s => (expression s).map (chunk .output)
  | .comment s => .ok (ofComment s)
  | .tag s => ofTag p s

/-- The pieces of a template that begins at a position. The first that is wrong is the last. -/
def scanFrom (p : Position) : List Char → List Piece
  | [] => []
  | c :: s =>
    match _h : Cut.next c s with
    | .error cause => [fault ⟨p, cause⟩]
    | .ok (cut, rest) =>
      match ofCut p cut with
      | .error cause => [fault ⟨p, cause⟩]
      | .ok piece => piece :: scanFrom (p.afterAll cut.source) rest
termination_by s => s.length
decreasing_by
  have := Cut.length_of_next _h
  simp
  omega

/-- The pieces of a template. -/
def scan (s : List Char) : List Piece :=
  scanFrom .start s

end Piece

end TextTemplate
