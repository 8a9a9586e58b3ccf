import TextTemplate.Text.Blank

/-!
# Comments and blank space in code

A comment is dropped like white space, unless its first characters mark it as documentation; such a
comment is kept, as an attribute.

- `Comment.line`: a line and what follows it.
- `Comment.dropBlock?`: what follows a block comment, in which further block comments may be nested.
- `Comment.skip`: a text without the white space and comments at its front.
- `Comment.documentation?`: the documentation comment at the front of a text.
-/

namespace TextTemplate

namespace Comment

open Text

/-- White space in code: two directional marks count as well. -/
def isGap (c : Char) : Bool :=
  isBlank c || c == '\u200e' || c == '\u200f'

/-- The text up to the end of its first line, and the text from the line feed on. A carriage return
before the line feed belongs to neither. -/
def line : List Char → List Char × List Char
  | [] => ([], [])
  | '\n' :: s => ([], '\n' :: s)
  | '\r' :: '\n' :: s => ([], '\n' :: s)
  | c :: s => let (l, r) := line s; (c :: l, r)

theorem length_line (s : List Char) : (line s).2.length ≤ s.length := by
  fun_induction line s with
  | case1 => exact Nat.le_refl 0
  | case2 s => exact Nat.le_refl _
  | case3 s => exact Nat.le_succ _
  | case4 c s _ _ l r hline ih =>
    rw [hline] at ih
    exact Nat.le_succ_of_le ih

/-- What follows the end of `depth` block comments that are open. -/
def dropBlock? : (depth : Nat) → List Char → Option (List Char)
  | 0, s => some s
  | depth + 1, '/' :: '*' :: s => dropBlock? (depth + 2) s
  | depth + 1, '*' :: '/' :: s => dropBlock? depth s
  | depth + 1, _ :: s => dropBlock? (depth + 1) s
  | _ + 1, [] => none

theorem length_dropBlock? {depth : Nat} {s r : List Char} (h : dropBlock? depth s = some r) :
    r.length ≤ s.length := by
  fun_induction dropBlock? depth s with
  | case1 s =>
    cases h
    exact Nat.le_refl _
  | case2 depth s ih => exact Nat.le_trans (ih h) (Nat.le_add_right s.length 2)
  | case3 depth s ih => exact Nat.le_trans (ih h) (Nat.le_add_right s.length 2)
  | case4 depth c s _ _ ih => exact Nat.le_succ_of_le (ih h)
  | case5 => cases h

/-- Whether a text starts with a line comment that is not documentation. -/
def startsLine : List Char → Bool
  | '/' :: '/' :: '/' :: '/' :: _ => true
  | '/' :: '/' :: '/' :: _ => false
  | '/' :: '/' :: '!' :: _ => false
  | '/' :: '/' :: _ => true
  | _ => false

/-- Whether a text starts with a block comment that is not documentation. -/
def startsBlock : List Char → Bool
  | '/' :: '*' :: '*' :: '/' :: _ => true
  | '/' :: '*' :: '*' :: '*' :: _ => true
  | '/' :: '*' :: '*' :: _ => false
  | '/' :: '*' :: '!' :: _ => false
  | '/' :: '*' :: _ => true
  | _ => false

/-- A text without the white space and comments at its front. A block comment that does not end is
left where it is. -/
def skip : List Char → List Char
  | [] => []
  | c :: s =>
    if startsLine (c :: s) then skip (line s).2
    else if startsBlock (c :: s) then
      match _h : dropBlock? 1 (s.drop 1) with
      | some r => skip r
      | none => c :: s
    else if isGap c then skip s
    else c :: s
termination_by s => s.length
decreasing_by
  · have := length_line s
    simp
    omega
  · have := length_dropBlock? _h
    simp at *
    omega
  · simp

theorem length_skip (s : List Char) : (skip s).length ≤ s.length := by
  fun_induction skip s with
  | case1 => simp
  | case2 c s _ ih =>
    have := length_line s
    simp
    omega
  | case3 c s _ _ r h ih =>
    have := length_dropBlock? h
    simp at *
    omega
  | case4 => simp
  | case5 c s _ _ _ ih =>
    simp
    omega
  | case6 => simp

/-! ## Documentation -/

/-- A documentation comment. -/
structure Documentation where
  /-- Whether it documents what encloses it. -/
  inner : Bool
  /-- Its text without the characters that open and close it. -/
  text : List Char

/-- Whether every carriage return belongs to a line end. -/
def hasLineEndsOnly : List Char → Bool
  | '\r' :: '\n' :: s => hasLineEndsOnly s
  | '\r' :: _ => false
  | _ :: s => hasLineEndsOnly s
  | [] => true

/-- A documentation comment of one line, after its three opening characters. -/
def documentationLine (inner : Bool) (s : List Char) : Option (Documentation × List Char) :=
  some (⟨inner, (line s).1⟩, (line s).2)

/-- A documentation comment of a block, after its three opening characters. The third of them may
begin the end of the comment. -/
def documentationBlock (inner : Bool) (third : Char) (s : List Char) :
    Option (Documentation × List Char) :=
  (dropBlock? 1 (third :: s)).map fun r => (⟨inner, s.take (s.length - r.length - 2)⟩, r)

/-- The documentation comment at the front of a text, and what follows it. -/
def documentation? (s : List Char) : Option (Documentation × List Char) :=
  let found := match s with
    | '/' :: '/' :: '!' :: s => documentationLine true s
    | '/' :: '/' :: '/' :: '/' :: _ => none
    | '/' :: '/' :: '/' :: s => documentationLine false s
    | '/' :: '*' :: '!' :: s => documentationBlock true '!' s
    | '/' :: '*' :: '*' :: '*' :: _ => none
    | '/' :: '*' :: '*' :: s => documentationBlock false '*' s
    | _ => none
  found.filter fun (d, _) => hasLineEndsOnly d.text

end Comment

end TextTemplate
