import TextTemplate.Tree.Basic

/-!
# The leaves of a tree, one after the other

The pieces of text are produced one at a time from a stack of trees that are still to be visited, so
that nobody has to hold them all.

- `Leaves`: the stack; the tree that comes next is on top.
- `Leaves.next`: the next leaf and the stack after it.
- `Leaves.all`: the leaves that `next` yields until there are none.
- `Leaves.all_eq_textsList`: they are the pieces of text of the trees on the stack, from top to
  bottom.
- `Tree.leaves`, `Tree.flatten`, `Tree.byteLength`, `Tree.isEmptyText`: what is read off the leaves.
-/

namespace TextTemplate

/-- The trees that are still to be visited, the next one first. -/
structure Leaves where
  stack : List Tree
deriving Repr

namespace Tree

mutual

/-- The number of steps that a visit of the tree takes. -/
def steps : Tree → Nat
  | text _ => 1
  | shared value => value.steps + 1
  | list items => stepsList items + 1

/-- The number of steps that a visit of a list of trees takes. -/
def stepsList : List Tree → Nat
  | [] => 0
  | t :: rest => t.steps + stepsList rest

end

@[simp] theorem stepsList_append (xs ys : List Tree) :
    stepsList (xs ++ ys) = stepsList xs + stepsList ys := by
  induction xs with
  | nil => simp [stepsList]
  | cons t rest ih => simp [stepsList, ih, Nat.add_assoc]

end Tree

namespace Leaves

/-- The next leaf of a stack, and the stack after it. A reference is followed, and the items of a
list take its place. -/
def nextOf : List Tree → Option (String × List Tree)
  | [] => none
  | .text s :: rest => some (s, rest)
  | .shared value :: rest => nextOf (value :: rest)
  | .list items :: rest => nextOf (items ++ rest)
termination_by stack => Tree.stepsList stack
decreasing_by
  all_goals simp [Tree.stepsList, Tree.steps]

/-- The next leaf, and what is left to visit. -/
def next (l : Leaves) : Option (String × Leaves) :=
  (nextOf l.stack).map fun (s, rest) => (s, ⟨rest⟩)

/-- A leaf takes a step. -/
theorem stepsList_of_nextOf {stack rest : List Tree} {s : String}
    (h : nextOf stack = some (s, rest)) : Tree.stepsList rest < Tree.stepsList stack := by
  fun_induction nextOf stack with
  | case1 => simp at h
  | case2 =>
    cases h
    simp [Tree.stepsList, Tree.steps]
  | case3 _ _ ih =>
    have := ih h
    simp [Tree.stepsList, Tree.steps] at *
    omega
  | case4 _ _ ih =>
    have := ih h
    simp [Tree.stepsList, Tree.steps] at *
    omega

/-- The leaves of a stack, in the order in which they come. -/
def allOf (stack : List Tree) : List String :=
  match _h : nextOf stack with
  | none => []
  | some (s, rest) => s :: allOf rest
termination_by Tree.stepsList stack
decreasing_by exact stepsList_of_nextOf _h

/-- The leaves that are still to come. -/
def all (l : Leaves) : List String := allOf l.stack

/-- The next leaf is the first piece of text of the trees that are left, if they have any. -/
theorem textsList_of_nextOf (stack : List Tree) :
    Tree.textsList stack = match nextOf stack with
      | none => []
      | some (s, rest) => s :: Tree.textsList rest := by
  fun_induction nextOf stack with
  | case1 => rfl
  | case2 => simp
  | case3 _ _ ih => simpa using ih
  | case4 _ _ ih => simpa using ih

/-- The leaves of a stack are the pieces of text of its trees, from top to bottom. -/
theorem allOf_eq_textsList (stack : List Tree) : allOf stack = Tree.textsList stack := by
  fun_induction allOf stack with
  | case1 stack h => simp [textsList_of_nextOf stack, h]
  | case2 stack s rest h ih => simp [textsList_of_nextOf stack, h, ih]

theorem all_eq_textsList (l : Leaves) : l.all = Tree.textsList l.stack :=
  allOf_eq_textsList l.stack

end Leaves

namespace Tree

/-- The leaves of a tree, to be visited from left to right. -/
def visit (t : Tree) : Leaves := ⟨[t]⟩

/-- The leaves of a tree. -/
def leaves (t : Tree) : List String := t.visit.all

@[simp] theorem leaves_eq_texts (t : Tree) : t.leaves = t.texts := by
  simp [leaves, visit, Leaves.all_eq_textsList]

/-- The whole text of a tree. -/
def flatten (t : Tree) : String := String.join t.leaves

/-- The number of bytes of the whole text. -/
def byteLength (t : Tree) : Nat := t.leaves.foldl (fun n s => n + s.utf8ByteSize) 0

/-- Whether the whole text is empty. -/
def isEmptyText (t : Tree) : Bool := t.leaves.all String.isEmpty

end Tree

end TextTemplate
