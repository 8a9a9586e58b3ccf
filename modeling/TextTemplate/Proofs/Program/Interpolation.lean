import TextTemplate.Proofs.Program.Chunks

/-!
# Values put into a text without a program

Texts and values may be put together at once, or a program may be compiled from them and run. The
first gives the tree of each, the second gives the same trees, of which those of values are shared.
What a value adds to the text is the text of what it is made of, in order.

- `Segment.tree`, `Segment.chunk`: a part of a text as a tree and as a part of a template.
- `Value.Atom`, `Value.atoms`: what a value is made of, however deep its lists and options are.
- `texts_toTree`: the text of a value is that of its atoms.
- `Evaluator.Converts`, `walk_segments`: an evaluator that makes every value a tree.
- `execute_compile_segments`: the main statement.
-/

namespace TextTemplate

/-! ## What values are made of -/

/-- The tree of a list has the trees of the items, in order. -/
theorem texts_toTree_list {α : Type} [Interpolable α] (xs : List α) :
    (toTree xs : Tree).texts = xs.flatMap fun x => (toTree x : Tree).texts := by
  show (Tree.list (xs.map toTree)).texts = _
  rw [Tree.texts_list, Tree.textsList_eq_flatMap, List.flatMap_map]

namespace Value

/-- A value that is made of no other values. -/
inductive Atom
  | text (s : String)
  | char (c : Char)
  | bool (b : Bool)
  | integer (n : Int)
  | floating (x : Floating)
  | tree (t : Tree)

/-- The pieces of text of an atom. All but a tree have a single one. -/
def Atom.texts : Atom → List String
  | text s => [s]
  | char c => [String.singleton c]
  | bool true => ["true"]
  | bool false => ["false"]
  | integer n => [toString n]
  | floating x => [x.text]
  | tree t => t.texts

mutual

/-- The atoms of a value, in order. Lists and options only hold what is in them. -/
def atoms : Value → List Atom
  | text s => [.text s]
  | char c => [.char c]
  | bool b => [.bool b]
  | integer n => [.integer n]
  | floating x => [.floating x]
  | list items => atomsOf items
  | option (some v) => v.atoms
  | option none => []
  | tree t | sharedTree t => [.tree t]

/-- The atoms of values, in order. -/
def atomsOf : List Value → List Atom
  | [] => []
  | v :: rest => v.atoms ++ atomsOf rest

end

mutual

/-- The text of a value is that of its atoms, in order. -/
theorem texts_toTree (v : Value) : v.toTree.texts = v.atoms.flatMap Atom.texts := by
  match v with
  | text s => exact Tree.texts_text s
  | char c => exact Tree.texts_text _
  | bool b => cases b <;> exact Tree.texts_text _
  | integer n => exact Tree.texts_text _
  | floating x => exact Tree.texts_text _
  | list items =>
    rw [toTree, Tree.texts_list, textsList_toTrees, atoms]
  | option (some v) =>
    rw [toTree, texts_toTree v, atoms]
  | option none => exact (Tree.texts_list []).trans Tree.textsList_nil
  | tree t => exact (List.flatMap_singleton Atom.texts (.tree t)).symm
  | sharedTree t =>
    exact (Tree.texts_shared t).trans (List.flatMap_singleton Atom.texts (.tree t)).symm

theorem textsList_toTrees (values : List Value) :
    Tree.textsList (toTrees values) = (atomsOf values).flatMap Atom.texts := by
  match values with
  | [] => exact Tree.textsList_nil
  | v :: rest =>
    rw [toTrees, Tree.textsList_cons, texts_toTree v, textsList_toTrees rest, atomsOf,
      List.flatMap_append]

end

end Value

/-! ## Parts of a text -/

namespace Segment

variable {ν : Type}

/-- A part of a text as a part of a template without blocks. -/
def chunk : Segment ν → Chunk ν
  | literal s => .text s
  | value v => .expression .output v

variable [Interpolable ν]

/-- A part of a text of which the value is made a tree. -/
def converted : Segment ν → Segment Tree
  | literal s => .literal s
  | value v => .value (toTree v)

/-- The tree of a part of a text. -/
def tree : Segment ν → Tree
  | literal s => .text s
  | value v => toTree v

/-- A part of a text adds the same pieces, whether its value is shared or not. -/
theorem texts_item_converted (segment : Segment ν) :
    segment.converted.item.texts = segment.tree.texts := by
  cases segment with
  | literal s => rfl
  | value v => exact Tree.texts_shared _

theorem interpolate_eq_map (segments : List (Segment ν)) :
    interpolate segments = segments.map tree :=
  List.map_congr_left fun segment _ => by cases segment <;> rfl

end Segment

/-! ## Running the program -/

section

variable {σ ν χ : Type} [Interpolable ν] {ev : Evaluator σ ν χ}

/-- An evaluator that makes every value a tree, whatever else it does. -/
def Evaluator.Converts (ev : Evaluator σ ν χ) : Prop :=
  ∀ v env s, ((ev.eval v env).on s).1 = .ok (toTree v)

/-- The walk over parts of a text collects them, with the trees of their values. -/
theorem walk_segments (hev : ev.Converts) (stem : String) (values calls : Nat) (env : Env)
    (segments : List (Segment ν)) (s : σ) :
    ((Chunk.walk ev stem values calls env (segments.map Segment.chunk)).on s).1 =
      .ok (segments.map Segment.converted) := by
  induction segments generalizing values calls env s with
  | nil => rfl
  | cons segment rest ih =>
    cases segment with
    | literal t =>
      rw [List.map_cons, Segment.chunk, Chunk.walk, Action.fst_on_bind (ih values calls env s)]
      rfl
    | value v =>
      have hv : (((ev.eval v env).mapError (ExecError.eval calls)).on s).1 = .ok (toTree v) := by
        rw [Action.on_mapError, hev v env s]
        rfl
      rw [List.map_cons, Segment.chunk, Chunk.walk, Action.fst_on_bind hv,
        Action.fst_on_bind (ih _ _ _ _)]
      rfl

/-- The program of parts of a text gives the list of them. -/
theorem execute_segments (hev : ev.Converts) (options : Options) (segments : List (Segment ν))
    (s : σ) :
    ((execute ev (Chunk.compile (segments.map Segment.chunk) options)).on s).1 =
      .ok (.list ((segments.map Segment.converted).map Segment.item)) := by
  have hwalk := walk_segments hev options.stem 0 0 .empty segments s
  rw [Chunk.walk_eq_walk_entries] at hwalk
  rw [Chunk.compile_eq_ofEntries,
    execute_ofEntries ev _ (Chunk.numbered_entries options.stem 0 _).nodup,
    Action.fst_on_bind hwalk]
  rfl

/-- Shared or not, the values in a list have the same text. -/
theorem texts_items (segments : List (Segment ν)) :
    (Tree.list ((segments.map Segment.converted).map Segment.item)).texts =
      (Tree.list (interpolate segments)).texts := by
  rw [Segment.interpolate_eq_map, Tree.texts_list, Tree.texts_list, Tree.textsList_eq_flatMap,
    Tree.textsList_eq_flatMap, List.map_map, List.flatMap_map, List.flatMap_map]
  congr 1
  exact funext Segment.texts_item_converted

/-- Of the items in the list, those of values are shared. -/
theorem getElem?_items (segments : List (Segment ν)) (k : Nat) :
    ((segments.map Segment.converted).map Segment.item)[k]? =
      match segments[k]? with
      | some (.literal _) => (interpolate segments)[k]?
      | some (.value _) => (interpolate segments)[k]?.map .shared
      | none => none := by
  rw [Segment.interpolate_eq_map, List.getElem?_map, List.getElem?_map, List.getElem?_map]
  cases segments[k]? with
  | none => rfl
  | some segment => cases segment <;> rfl

end

/-- **Putting a text together and running its program agree.** There is one tree for each part, in
order. The program gives the list of these trees, of which those of values are shared, so that the
two have the same text in the same pieces. These are the pieces of the parts, in order: a list adds
what its items add, an option adds what it holds, and a value adds what its atoms add. -/
theorem execute_compile_segments {σ ν χ : Type} [Interpolable ν] (ev : Evaluator σ ν χ)
    (hev : ev.Converts) (options : Options) (segments : List (Segment ν)) (s : σ) :
    (interpolate segments).length = segments.length ∧
    (∀ k : Nat, (interpolate segments)[k]? = segments[k]?.map Segment.tree) ∧
    (∃ (items : List Tree) (t : σ),
      (execute ev (Chunk.compile (segments.map Segment.chunk) options)).on s =
        (.ok (.list items), t) ∧
      items.length = segments.length ∧
      (∀ k : Nat, items[k]? =
        match segments[k]? with
        | some (.literal _) => (interpolate segments)[k]?
        | some (.value _) => (interpolate segments)[k]?.map .shared
        | none => none) ∧
      (Tree.list items).leaves = (Tree.list (interpolate segments)).leaves ∧
      (Tree.list items).flatten = (Tree.list (interpolate segments)).flatten ∧
      (Tree.list items).byteLength = (Tree.list (interpolate segments)).byteLength ∧
      (Tree.list items).isEmptyText = (Tree.list (interpolate segments)).isEmptyText) ∧
    (Tree.list (interpolate segments)).leaves = segments.flatMap (fun part => part.tree.leaves) ∧
    (∀ (α : Type) [Interpolable α] (xs : List α),
      (toTree xs : Tree).leaves = xs.flatMap fun x => (toTree x : Tree).leaves) ∧
    (∀ (α : Type) [Interpolable α] (a : α), (toTree (some a) : Tree) = toTree a) ∧
    (∀ (α : Type) [Interpolable α], (toTree (none : Option α) : Tree).leaves = []) ∧
    ∀ v : Value, v.toTree.leaves = v.atoms.flatMap Value.Atom.texts := by
  let items : List Tree := (segments.map Segment.converted).map Segment.item
  have hrun : (execute ev (Chunk.compile (segments.map Segment.chunk) options)).on s =
      (.ok (.list items), _) := Prod.ext (execute_segments hev options segments s) rfl
  have hleaves : (Tree.list items).leaves = (Tree.list (interpolate segments)).leaves := by
    rw [Tree.leaves_eq_texts, Tree.leaves_eq_texts]
    exact texts_items segments
  refine ⟨List.length_map _, fun k => ?_, ⟨items, _, hrun, ?_, getElem?_items segments, hleaves,
    ?_, ?_, ?_⟩, ?_, fun α _ xs => ?_, fun _ _ _ => rfl, fun _ _ => ?_, fun v => ?_⟩
  · rw [Segment.interpolate_eq_map, List.getElem?_map]
  · rw [List.length_map, List.length_map]
  · rw [Tree.flatten, Tree.flatten, hleaves]
  · rw [Tree.byteLength, Tree.byteLength, hleaves]
  · rw [Tree.isEmptyText, Tree.isEmptyText, hleaves]
  · simp only [Segment.interpolate_eq_map, Tree.leaves_eq_texts, Tree.texts_list,
      Tree.textsList_eq_flatMap, List.flatMap_map]
  · simp only [Tree.leaves_eq_texts]
    exact texts_toTree_list xs
  · rw [Tree.leaves_eq_texts]
    exact (Tree.texts_list []).trans Tree.textsList_nil
  · rw [Tree.leaves_eq_texts, Value.texts_toTree]

/-- An evaluator that counts its calls. -/
def Evaluator.counting : Evaluator Nat Value Empty where
  eval v _ := do
    modify (· + 1)
    return v.toTree
  exec _ _ := modify (· + 1)

/-- A list with an option, an empty option, an empty list and a character, between two texts. -/
def Segment.sample : List (Segment Value) :=
  [.literal "a",
    .value (.list [.option (some (.integer (-3))), .option none, .list [], .char 'x']),
    .literal ""]

/-- The list is shared, and adds two pieces of text. -/
theorem execute_compile_segments_nested :
    Evaluator.counting.Converts ∧
      ∃ (items : List Tree) (t : Nat),
        (execute .counting (Chunk.compile (Segment.sample.map Segment.chunk) .standard)).on 0 =
          (.ok (.list items), t) ∧
        items[1]? = some (.shared (.list [.text "-3", .empty, .empty, .text "x"])) ∧
        (Tree.list items).leaves = ["a", "-3", "x", ""] := by
  have hev : Evaluator.counting.Converts := fun _ _ _ => rfl
  obtain ⟨-, -, ⟨items, t, hrun, -, hitems, hleaves, -⟩, hparts, -⟩ :=
    execute_compile_segments .counting hev .standard Segment.sample 0
  refine ⟨hev, items, t, hrun, (hitems 1).trans rfl, ?_⟩
  rw [hleaves, Tree.leaves_eq_texts]
  decide

end TextTemplate
