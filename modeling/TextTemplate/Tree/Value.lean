import TextTemplate.Decimal.Floating
import TextTemplate.Tree.Leaves

/-!
# Values in a template

- `Interpolable`: types whose values can be put into a text.
- `Value`: the values that a template is given: texts, characters, numbers, truth values, trees, and
  lists and options of these.
- `Value.toTree`: a value as a tree.
- `Segment`, `interpolate`: texts and values put together without a program.
- `separated`: values put together, with a mark between each two of three.
-/

namespace TextTemplate

/-- Types whose values can be put into a text. -/
class Interpolable (α : Type) where
  /-- The value as a tree. -/
  toTree : α → Tree

export Interpolable (toTree)

instance : Interpolable Tree := ⟨id⟩

instance : Interpolable String := ⟨Tree.text⟩

instance : Interpolable Char := ⟨fun c => .text (String.singleton c)⟩

instance : Interpolable Bool := ⟨fun b => .text (if b then "true" else "false")⟩

instance : Interpolable Int := ⟨fun n => .text (toString n)⟩

instance : Interpolable Floating := ⟨fun x => .text x.text⟩

instance {α : Type} [Interpolable α] : Interpolable (List α) := ⟨fun xs => .list (xs.map toTree)⟩

instance {α : Type} [Interpolable α] : Interpolable (Option α) :=
  ⟨fun x => match x with
    | some a => toTree a
    | none => .empty⟩

/-- A value that a template is given. -/
inductive Value
  | text (s : String)
  | char (c : Char)
  | bool (b : Bool)
  | integer (n : Int)
  | floating (x : Floating)
  | list (items : List Value)
  | option (value : Option Value)
  | tree (t : Tree)
  | sharedTree (t : Tree)
deriving Repr

namespace Value

mutual

/-- A value as a tree. An option that holds something is what it holds; one that holds nothing is
the empty tree. -/
def toTree : Value → Tree
  | text s => Interpolable.toTree s
  | char c => Interpolable.toTree c
  | bool b => Interpolable.toTree b
  | integer n => Interpolable.toTree n
  | floating x => Interpolable.toTree x
  | list items => .list (toTrees items)
  | option (some v) => v.toTree
  | option none => .empty
  | tree t => t
  | sharedTree t => .shared t

/-- The values of a list as trees. -/
def toTrees : List Value → List Tree
  | [] => []
  | v :: rest => v.toTree :: toTrees rest

end

instance : Interpolable Value := ⟨toTree⟩

end Value

/-- A part of a text that is put together from values. -/
inductive Segment (ν : Type)
  | literal (s : String)
  | value (v : ν)
deriving Repr

/-- A tree for every segment, in order. -/
def interpolate {ν : Type} [Interpolable ν] (segments : List (Segment ν)) : List Tree :=
  segments.map fun segment => match segment with
    | .literal s => .text s
    | .value v => toTree v

/-- A tree for every value, in order; between three values stand two marks. -/
def separated {ν : Type} [Interpolable ν] : List ν → List Tree
  | [a, b, c] => [toTree a, toTree "|", toTree b, toTree '|', toTree c]
  | values => values.map toTree

end TextTemplate
