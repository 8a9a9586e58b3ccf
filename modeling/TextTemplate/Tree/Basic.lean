import TextTemplate.Text.Quoted

/-!
# Trees of text

What a template yields is a tree: pieces of text in order, of which some may be shared. Nothing is
joined until somebody asks for the whole text.

- `Tree`: a text, a reference to a tree that was made elsewhere, or a list of trees.
- `Tree.texts`: the pieces of text from left to right, by recursion on the tree.
- `Tree.wrap`, `Tree.copies`: trees made from others.
- `Tree.debug`: the tree as diagnostics show it.
-/

namespace TextTemplate

/-- A tree of text. -/
inductive Tree
  | text (s : String)
  | shared (value : Tree)
  | list (items : List Tree)
deriving Repr, Inhabited

namespace Tree

/-- The tree without text. -/
def empty : Tree := list []

mutual

/-- Equality of trees is decidable, by recursion on the first. -/
def decEq : (a b : Tree) → Decidable (a = b)
  | text s, text t => if h : s = t then isTrue (h ▸ rfl) else isFalse fun e => h (text.inj e)
  | shared a, shared b =>
    match decEq a b with
    | isTrue h => isTrue (h ▸ rfl)
    | isFalse h => isFalse fun e => h (shared.inj e)
  | list xs, list ys =>
    match decEqList xs ys with
    | isTrue h => isTrue (h ▸ rfl)
    | isFalse h => isFalse fun e => h (list.inj e)
  | text _, shared _ | text _, list _ | shared _, text _ | shared _, list _ | list _, text _
  | list _, shared _ => isFalse nofun

/-- Equality of lists of trees. -/
def decEqList : (xs ys : List Tree) → Decidable (xs = ys)
  | [], [] => isTrue rfl
  | [], _ :: _ | _ :: _, [] => isFalse nofun
  | x :: xs, y :: ys =>
    match decEq x y, decEqList xs ys with
    | isTrue h, isTrue h' => isTrue (h ▸ h' ▸ rfl)
    | isFalse h, _ => isFalse fun e => h (List.cons.inj e).1
    | _, isFalse h => isFalse fun e => h (List.cons.inj e).2

end

instance : DecidableEq Tree := decEq

mutual

/-- The pieces of text in a tree, from left to right. -/
def texts : Tree → List String
  | text s => [s]
  | shared value => value.texts
  | list items => textsList items

/-- The pieces of text in a list of trees. -/
def textsList : List Tree → List String
  | [] => []
  | t :: rest => t.texts ++ textsList rest

end

@[simp] theorem texts_text (s : String) : (text s).texts = [s] := by simp [texts]

@[simp] theorem texts_shared (t : Tree) : (shared t).texts = t.texts := by simp [texts]

@[simp] theorem texts_list (items : List Tree) : (list items).texts = textsList items := by
  simp [texts]

@[simp] theorem textsList_nil : textsList [] = [] := by simp [textsList]

@[simp] theorem textsList_cons (t : Tree) (rest : List Tree) :
    textsList (t :: rest) = t.texts ++ textsList rest := by simp [textsList]

@[simp] theorem textsList_append (xs ys : List Tree) :
    textsList (xs ++ ys) = textsList xs ++ textsList ys := by
  induction xs with
  | nil => simp
  | cons t rest ih => simp [ih, List.append_assoc]

/-! ## Trees from trees -/

/-- How a tree is wrapped: in a reference, or in a list between two optional texts. -/
inductive Wrapping
  | shared
  | list (left right : Option String)
deriving Repr

/-- A tree inside one wrapping. -/
def Wrapping.around (w : Wrapping) (t : Tree) : Tree :=
  match w with
  | shared => .shared t
  | list left right => .list ((left.map text).toList ++ t :: (right.map text).toList)

/-- A tree inside the same wrapping a number of times. -/
def wrap (w : Wrapping) : Nat → Tree → Tree
  | 0, t => t
  | n + 1, t => wrap w n (w.around t)

/-- A list of copies of a tree. -/
def copies (n : Nat) (t : Tree) : Tree := list (List.replicate n t)

/-! ## Diagnostics -/

mutual

/-- The tree as diagnostics show it. -/
def debug : Tree → String
  | text s => "Text(" ++ Text.quoteAll s ++ ")"
  | shared value => "Shared(" ++ value.debug ++ ")"
  | list items => "List([" ++ String.intercalate ", " (debugList items) ++ "])"

/-- The trees of a list as diagnostics show them. -/
def debugList : List Tree → List String
  | [] => []
  | t :: rest => t.debug :: debugList rest

end

end Tree

end TextTemplate
