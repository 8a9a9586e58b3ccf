import TextTemplate.Tree.Leaves

/-!
# Trees visited leaf by leaf

A visit works on a stack of trees. Whatever stack it has come to, the leaves that are still to come
are those of the trees on it, from top to bottom; of a whole tree they are its pieces of text.

- `Leaves.rest`, `Leaves.after`: the stack after one call, and after a number of calls.
- `textsList_rest`: a call takes the first of the leaves away.
- `next_after`, `textsList_after`: the answer to a later call, and what is left then.
- `flatten_list`, `byteLength_eq`, `isEmptyText_iff`: what is read off the leaves of a tree.
- `visit_texts`: the main statement.
-/

namespace TextTemplate

namespace Tree

/-- The leaves of trees in a row are those of one tree after the other. -/
theorem textsList_eq_flatMap (items : List Tree) : textsList items = items.flatMap texts := by
  induction items with
  | nil => rfl
  | cons t rest ih => rw [textsList_cons, ih, List.flatMap_cons]

end Tree

namespace Leaves

/-- The stack after a call. One that has no leaf any more is used up. -/
def rest (l : Leaves) : Leaves :=
  match l.next with
  | some (_, l) => l
  | none => ⟨[]⟩

/-- The stack after a number of calls. -/
def after : Nat → Leaves → Leaves
  | 0, l => l
  | n + 1, l => after n l.rest

/-- A call answers with the first leaf. -/
theorem next_eq_head? (l : Leaves) :
    l.next.map Prod.fst = (Tree.textsList l.stack).head? := by
  rw [next, textsList_of_nextOf l.stack]
  cases nextOf l.stack with
  | none => rfl
  | some found => rfl

/-- A call takes the first of the leaves away. -/
theorem textsList_rest (l : Leaves) :
    Tree.textsList l.rest.stack = (Tree.textsList l.stack).tail := by
  rw [rest, next, textsList_of_nextOf l.stack]
  cases nextOf l.stack with
  | none => rfl
  | some found => rfl

/-- What is left after a number of calls is all but as many leaves. -/
theorem textsList_after (n : Nat) (l : Leaves) :
    Tree.textsList (l.after n).stack = (Tree.textsList l.stack).drop n := by
  induction n generalizing l with
  | zero => rfl
  | succ n ih => rw [after, ih, textsList_rest, List.drop_tail]

/-- The answers are the leaves, and then there are none. -/
theorem next_after (n : Nat) (l : Leaves) :
    (l.after n).next.map Prod.fst = (Tree.textsList l.stack)[n]? := by
  rw [next_eq_head?, textsList_after, List.head?_drop]

end Leaves

namespace Tree

/-- Bytes are counted leaf by leaf. -/
theorem foldl_utf8ByteSize (texts : List String) (n : Nat) :
    texts.foldl (fun n s => n + s.utf8ByteSize) n = n + (String.join texts).utf8ByteSize := by
  induction texts generalizing n with
  | nil => rfl
  | cons s texts ih =>
    rw [List.foldl_cons, ih, String.join_cons, String.utf8ByteSize_append, Nat.add_assoc]

theorem byteLength_eq (t : Tree) : t.byteLength = t.flatten.utf8ByteSize := by
  rw [byteLength, foldl_utf8ByteSize, Nat.zero_add, flatten]

/-- A text in pieces is empty if all of them are. -/
theorem all_isEmpty_iff (texts : List String) :
    texts.all String.isEmpty = true ↔ String.join texts = "" := by
  induction texts with
  | nil => exact ⟨fun _ => rfl, fun _ => rfl⟩
  | cons s texts ih =>
    rw [List.all_cons, Bool.and_eq_true, ih, String.join_cons, String.isEmpty_iff,
      String.append_eq_empty_iff]

theorem isEmptyText_iff (t : Tree) : t.isEmptyText = true ↔ t.flatten = "" :=
  all_isEmpty_iff t.leaves

/-- The text of a list is that of its items, one after the other. -/
theorem flatten_list (items : List Tree) :
    (list items).flatten = String.join (items.map flatten) := by
  rw [flatten, leaves_eq_texts, texts_list]
  induction items with
  | nil => rfl
  | cons t rest ih =>
    rw [textsList_cons, String.join_append, ih, List.map_cons, String.join_cons, flatten,
      leaves_eq_texts]

theorem flatten_shared (t : Tree) : (shared t).flatten = t.flatten := by
  rw [flatten, flatten, leaves_eq_texts, leaves_eq_texts, texts_shared]

/-- **A visit yields the leaves of a tree from left to right, and then nothing.** The leaves that are
left on a stack, after any number of calls, are those of its trees from top to bottom. So the text of
a tree is that of its leaves, the text of a list is that of its items, and the number of bytes is
that of the text. -/
theorem visit_texts (t : Tree) :
    (∀ n, (t.visit.after n).next.map Prod.fst = t.texts[n]?) ∧
      (∀ (l : Leaves) (n : Nat),
        (l.after n).next.map Prod.fst = (l.stack.flatMap texts)[n]? ∧
          (l.after n).stack.flatMap texts = (l.stack.flatMap texts).drop n ∧
          (l.after n).all = (l.stack.flatMap texts).drop n) ∧
      t.flatten = String.join t.texts ∧
      (∀ items, (list items).flatten = String.join (items.map flatten)) ∧
      (∀ value, (shared value).flatten = value.flatten) ∧
      t.byteLength = t.flatten.utf8ByteSize ∧ (t.isEmptyText = true ↔ t.flatten = "") := by
  have hstack (l : Leaves) (n : Nat) :
      (l.after n).next.map Prod.fst = (l.stack.flatMap texts)[n]? ∧
        (l.after n).stack.flatMap texts = (l.stack.flatMap texts).drop n ∧
        (l.after n).all = (l.stack.flatMap texts).drop n := by
    rw [Leaves.all_eq_textsList, ← textsList_eq_flatMap, ← textsList_eq_flatMap]
    exact ⟨l.next_after n, l.textsList_after n, l.textsList_after n⟩
  have hvisit : t.visit.stack.flatMap texts = t.texts := List.flatMap_singleton texts t
  refine ⟨fun n => ?_, hstack, ?_, flatten_list, flatten_shared, t.byteLength_eq, t.isEmptyText_iff⟩
  · rw [(hstack t.visit n).1, hvisit]
  · rw [flatten, leaves_eq_texts]

end Tree

end TextTemplate
