import TextTemplate.Program.Nested
import TextTemplate.Proofs.Program.Growth

/-!
# Blocks inside blocks

Every block is compiled on its own, put into the block around it as one expression, and run with
names of its own. The text and the effects are still those of a single walk over the nested blocks.

- `BlockTree`: texts, outputs, effects and blocks of these.
- `BlockTree.compile`: a tree of blocks compiled step by step.
- `BlockTree.walk`: a tree of blocks walked over from left to right; a fault carries its path.
- `BlockTree.entries`: what the trees add to the block that is being filled, with their names.
- `addTrees_eq_extend`: the compilation adds the entries and counts their names.
- `renders_walk`: one block runs as it is walked over, by induction on the nesting.
- `execute_compile_renders`: the main statement.
-/

namespace TextTemplate

/-- A part of a text of nested blocks. -/
inductive BlockTree (α : Type)
  | text (s : String)
  | output (a : α)
  | effect (a : α)
  | block (items : List (BlockTree α))

/-- An evaluator that does not look at the values that have names. -/
structure Evaluator.IgnoresNames {σ ε χ : Type} (ev : Evaluator σ ε χ) : Prop where
  eval : ∀ e env, ev.eval e env = ev.eval e .empty
  exec : ∀ e env, ev.exec e env = ev.exec e .empty

namespace NestedError

variable {χ : Type}

/-- The error of an expression that is found along a path: every number is that of a statement, and
all but the last of these statements are blocks. -/
def atPath : List Nat → χ → NestedError χ
  | [], e => atom e
  | i :: path, e => block (.eval i (atPath path e))

end NestedError

namespace BlockTree

variable {σ α χ : Type}

/-! ## Compiling -/

mutual

/-- Adds a tree to a compilation. A block is compiled in a scope of its own. -/
def addTree (s : State (Nested α)) : BlockTree α → State (Nested α)
  | text t => s.text t
  | output a => s.expression .output (.atom a)
  | effect a => s.expression .effect (.atom a)
  | block items =>
    let (parent, s) := s.begin
    let (program, s) := (addTrees s items).finish parent
    (s.block program .block).2

/-- Adds trees to a compilation, in order. -/
def addTrees (s : State (Nested α)) : List (BlockTree α) → State (Nested α)
  | [] => s
  | t :: rest => addTrees (addTree s t) rest

end

/-- The program of a list of trees. -/
def compile (items : List (BlockTree α)) (options : Options) : Block (Nested α) :=
  (addTrees (State.init options) items).finalize

/-! ## Walking -/

/-- Whether a tree is a text, which takes no statement. -/
def isText : BlockTree α → Bool
  | text _ => true
  | output _ | effect _ | block _ => false

mutual

/-- The text of a tree. A fault carries its path inside of the tree. -/
def walkTree (ev : Evaluator σ α χ) : BlockTree α → Action σ (List Nat × χ) String
  | text t => return t
  | output a => do
    let v ← (ev.eval a .empty).mapError fun e => ([], e)
    return v.flatten
  | effect a => do
    (ev.exec a .empty).mapError fun e => ([], e)
    return ""
  | block items => walk ev 0 items

/-- The text of trees, from left to right. The index is the number of trees that are no text and
come before; a fault carries the path to it, outermost index first. -/
def walk (ev : Evaluator σ α χ) (index : Nat) :
    List (BlockTree α) → Action σ (List Nat × χ) String
  | [] => return ""
  | t :: rest => do
    let front ← (walkTree ev t).mapError fun (path, e) => (index :: path, e)
    let back ← walk ev (if t.isText then index else index + 1) rest
    return front ++ back

end

/-! ## Entries -/

mutual

/-- What a tree adds to a block, and the number of the next name. A block takes its own name after
those inside of it. -/
def entry (stem : String) (n : Nat) : BlockTree α → Entry (Nested α) × Nat
  | text t => (.text t, n)
  | output a => (.value (.numbered stem n) (.atom a), n + 1)
  | effect a => (.effect (.atom a), n)
  | block items =>
    let (inner, m) := entries stem n items
    (.value (.numbered stem m) (.block (Block.ofEntries inner)), m + 1)

/-- What trees add to a block, and the number of the next name. -/
def entries (stem : String) (n : Nat) : List (BlockTree α) → List (Entry (Nested α)) × Nat
  | [] => ([], n)
  | t :: rest =>
    let (e, m) := entry stem n t
    let (es, k) := entries stem m rest
    (e :: es, k)

end

mutual

/-- Compiling a tree adds its entry to the block that is being filled, and counts its names. -/
theorem addTree_eq_extend (s : State (Nested α)) (t : BlockTree α) :
    addTree s t =
      s.extend [(entry s.options.stem s.counter t).1] (entry s.options.stem s.counter t).2 := by
  match t with
  | text t => exact s.text_eq_extend t
  | output a => exact s.value_eq_extend (.atom a)
  | effect a => exact s.effect_eq_extend (.atom a)
  | block items =>
    show (((addTrees s.begin.2 items).finish s.begin.1).2.block
      ((addTrees s.begin.2 items).finish s.begin.1).1 .block).2 = _
    rw [addTrees_eq_extend, State.finish_extend]
    show ((s.extend [] _).value _).2 = _
    rw [State.value_eq_extend, State.extend_extend]
    rfl

/-- Compiling trees adds their entries, in order. -/
theorem addTrees_eq_extend (s : State (Nested α)) (items : List (BlockTree α)) :
    addTrees s items =
      s.extend (entries s.options.stem s.counter items).1
        (entries s.options.stem s.counter items).2 := by
  match items with
  | [] => exact s.extend_nil.symm
  | t :: rest =>
    rw [addTrees, addTrees_eq_extend, addTree_eq_extend, State.extend_extend]
    rfl

end

mutual

/-- The name of a tree comes after those inside of it. -/
theorem numbered_entry (stem : String) (n : Nat) (t : BlockTree α) :
    Entry.Numbered stem n (entry stem n t).2 [(entry stem n t).1] := by
  match t with
  | text t => exact .of_names_eq_nil rfl (Nat.le_refl n)
  | output a => exact .value (Nat.le_refl n) _
  | effect a => exact .of_names_eq_nil rfl (Nat.le_refl n)
  | block items => exact .value (numbered_entries stem n items).le _

/-- Trees take their names one after the other. -/
theorem numbered_entries (stem : String) (n : Nat) (items : List (BlockTree α)) :
    Entry.Numbered stem n (entries stem n items).2 (entries stem n items).1 := by
  match items with
  | [] => exact .of_names_eq_nil rfl (Nat.le_refl n)
  | t :: rest =>
    exact (numbered_entry stem n t).append (numbered_entries stem (entry stem n t).2 rest)

end

/-! ## Runs -/

/-- How an expression that is a value ends, given how the walk over its tree ends. -/
inductive Yields : Except (List Nat × χ) String × σ → Except (NestedError χ) Tree × σ → Prop
  | ok (v : Tree) (s : σ) : Yields (.ok v.flatten, s) (.ok v, s)
  | error (path : List Nat) (e : χ) (s : σ) :
    Yields (.error (path, e), s) (.error (.atPath path e), s)

/-- How the run of a block ends, given how the walk over it ends. -/
inductive Renders : Except (List Nat × χ) String × σ →
    Except (ExecError (NestedError χ)) (List (Segment Tree)) × σ → Prop
  | ok (parts : List (Segment Tree)) (s : σ) :
    Renders (.ok (String.join (parts.map Segment.content)), s) (.ok parts, s)
  | error (i : Nat) (path : List Nat) (e : χ) (s : σ) :
    Renders (.error (i :: path, e), s) (.error (.eval i (.atPath path e)), s)

/-- A part comes before what is rendered after it. -/
theorem Renders.cons {w : Except (List Nat × χ) String × σ}
    {r : Except (ExecError (NestedError χ)) (List (Segment Tree)) × σ} (h : Renders w r)
    (part : Segment Tree) :
    Renders (w.1.map (part.content ++ ·), w.2) (r.1.map (part :: ·), r.2) := by
  cases h with
  | error i path e s => exact .error i path e s
  | ok parts s =>
    show Renders (.ok (part.content ++ String.join (parts.map Segment.content)), s) _
    rw [← String.join_cons, ← List.map_cons]
    exact .ok (part :: parts) s

section

variable {ev : Evaluator σ α χ}

theorem walk_cons (index : Nat) (t : BlockTree α) (rest : List (BlockTree α)) :
    walk ev index (t :: rest) =
      ((walkTree ev t).mapError fun (path, e) => (index :: path, e)) >>= fun front =>
        (front ++ ·) <$> walk ev (if t.isText then index else index + 1) rest := by
  rw [walk]
  simp only [bind_pure_comp]

/-- A text comes before what follows it. -/
theorem renders_text {rest : List (BlockTree α)} {index : Nat} {env : Env} {s : σ}
    {es : List (Entry (Nested α))} (t : String)
    (hr : Renders ((walk ev index rest).on s)
      ((Entry.walk (Nested.evaluator ev) index env es).on s)) :
    Renders ((walk ev index (text t :: rest)).on s)
      ((Entry.walk (Nested.evaluator ev) index env (.text t :: es)).on s) := by
  have hw : walk ev index (text t :: rest) = (t ++ ·) <$> walk ev index rest := by
    rw [walk_cons, walkTree, Action.mapError_pure, pure_bind]
    rfl
  rw [hw, Entry.walk, bind_pure_comp, Action.on_map, Action.on_map]
  exact hr.cons (.literal t)

/-- A value that yields what its tree does is rendered as the tree is walked over. -/
theorem renders_value {t : BlockTree α} {rest : List (BlockTree α)} {index : Nat} {env : Env}
    {s : σ} {id : Ident} {e : Nested α} {es : List (Entry (Nested α))} (ht : t.isText = false)
    (hv : Yields ((walkTree ev t).on s) (((Nested.evaluator ev).eval e env).on s))
    (hr : ∀ v s', Renders ((walk ev (index + 1) rest).on s')
      ((Entry.walk (Nested.evaluator ev) (index + 1) (env.bind id v) es).on s')) :
    Renders ((walk ev index (t :: rest)).on s)
      ((Entry.walk (Nested.evaluator ev) index env (.value id e :: es)).on s) := by
  rw [walk_cons, ht, Entry.walk_value, Action.on_bind, Action.on_bind, Action.on_mapError,
    Action.on_mapError]
  generalize (walkTree ev t).on s = w at hv
  generalize ((Nested.evaluator ev).eval e env).on s = r at hv
  cases hv with
  | error path e s' => exact .error index path e s'
  | ok v s' =>
    show Renders (((v.flatten ++ ·) <$> walk ev (index + 1) rest).on s')
      (((.value v :: ·) <$> Entry.walk _ (index + 1) (env.bind id v) es).on s')
    rw [Action.on_map, Action.on_map]
    exact (hr v s').cons (.value v)

/-- An effect leaves no text, whatever names there are. -/
theorem renders_effect (h : ev.IgnoresNames) {rest : List (BlockTree α)} {index : Nat} {env : Env}
    {s : σ} {es : List (Entry (Nested α))} (a : α)
    (hr : ∀ s', Renders ((walk ev (index + 1) rest).on s')
      ((Entry.walk (Nested.evaluator ev) (index + 1) env es).on s')) :
    Renders ((walk ev index (effect a :: rest)).on s)
      ((Entry.walk (Nested.evaluator ev) index env (.effect (.atom a) :: es)).on s) := by
  have hexec : (Nested.evaluator ev).exec (.atom a) env = (ev.exec a .empty).mapError .atom := by
    rw [← h.exec a env]
    show Nested.execNested ev env (.atom a) = _
    rw [Nested.execNested]
  rw [walk_cons, walkTree, Entry.walk, hexec, Action.mapError_bind, bind_assoc, Action.on_bind,
    Action.on_bind]
  simp only [Action.on_mapError]
  rcases (ev.exec a .empty).on s with ⟨e | ⟨⟩, s'⟩
  · exact .error index [] e s'
  · have he : (fun back : String => "" ++ back) = id := funext fun _ => String.empty_append
    show Renders (((fun back : String => "" ++ back) <$> walk ev (index + 1) rest).on s')
      ((Entry.walk (Nested.evaluator ev) (index + 1) env es).on s')
    rw [he, id_map]
    exact hr s'

/-- An output yields its value, whatever names there are. -/
theorem yields_output (h : ev.IgnoresNames) (a : α) (env : Env) (s : σ) :
    Yields ((walkTree ev (output a)).on s) (((Nested.evaluator ev).eval (.atom a) env).on s) := by
  have heval : (Nested.evaluator ev).eval (.atom a) env = (ev.eval a .empty).mapError .atom := by
    rw [← h.eval a env]
    show Nested.evalNested ev env (.atom a) = _
    rw [Nested.evalNested]
  rw [walkTree, heval, bind_pure_comp, Action.on_map, Action.on_mapError, Action.on_mapError]
  rcases (ev.eval a .empty).on s with ⟨e | v, s'⟩
  · exact .error [] e s'
  · exact .ok v s'

/-- A block that is rendered as its trees are walked over yields what they do. -/
theorem yields_block {items : List (BlockTree α)} {stem : String} {n : Nat} {s : σ} (env : Env)
    (hr : Renders ((walk ev 0 items).on s)
      ((Entry.walk (Nested.evaluator ev) 0 .empty (entries stem n items).1).on s)) :
    Yields ((walkTree ev (block items)).on s)
      (((Nested.evaluator ev).eval (.block (Block.ofEntries (entries stem n items).1)) env).on
        s) := by
  rw [walkTree, Nested.evaluator_eval_block,
    execute_ofEntries _ _ (numbered_entries stem n items).nodup, bind_pure_comp,
    Action.on_mapError, Action.on_map]
  generalize (walk ev 0 items).on s = w at hr
  generalize (Entry.walk (Nested.evaluator ev) 0 .empty (entries stem n items).1).on s = r at hr
  cases hr with
  | error i path e s' => exact .error (i :: path) e s'
  | ok parts s' =>
    rw [← Segment.flatten_items]
    exact .ok (.list (parts.map Segment.item)) s'

/-- **A block runs as it is walked over**, at every depth. -/
theorem renders_walk (h : ev.IgnoresNames) (stem : String) (n : Nat) (index : Nat) (env : Env)
    (s : σ) (items : List (BlockTree α)) :
    Renders ((walk ev index items).on s)
      ((Entry.walk (Nested.evaluator ev) index env (entries stem n items).1).on s) := by
  match items with
  | [] => exact .ok [] s
  | text t :: rest => exact renders_text t (renders_walk h stem n index env s rest)
  | output a :: rest =>
    exact renders_value rfl (yields_output h a env s) fun v s' =>
      renders_walk h stem (n + 1) (index + 1) _ s' rest
  | effect a :: rest =>
    exact renders_effect h a fun s' => renders_walk h stem n (index + 1) env s' rest
  | block inner :: rest =>
    refine renders_value rfl (yields_block env (renders_walk h stem n 0 .empty s inner)) ?_
    exact fun v s' => renders_walk h stem _ (index + 1) _ s' rest

/-- A list of trees is compiled to the block of its entries. -/
theorem compile_eq_ofEntries (items : List (BlockTree α)) (options : Options) :
    compile items options = Block.ofEntries (entries options.stem 0 items).1 := by
  rw [compile, addTrees_eq_extend]
  rfl

/-- **Nested blocks render as if walked over**: the program of the trees ends in the state in which
the walk ends, and gives a tree with the text of the walk. If the walk fails, so does the program,
with an error for every number in the path of the fault. -/
theorem execute_compile_renders (h : ev.IgnoresNames) (items : List (BlockTree α))
    (options : Options) (s : σ) :
    match (walk ev 0 items).on s with
    | (.ok written, s') => ∃ tree : Tree, tree.flatten = written ∧
        (execute (Nested.evaluator ev) (compile items options)).on s = (.ok tree, s')
    | (.error (path, e), s') => ∃ i inner, path = i :: inner ∧
        (execute (Nested.evaluator ev) (compile items options)).on s =
          (.error (.eval i (.atPath inner e)), s') := by
  rw [compile_eq_ofEntries, execute_ofEntries _ _ (numbered_entries options.stem 0 items).nodup,
    bind_pure_comp, Action.on_map]
  have hr := renders_walk h options.stem 0 0 .empty s items
  generalize (walk ev 0 items).on s = w at hr
  generalize (Entry.walk (Nested.evaluator ev) 0 .empty (entries options.stem 0 items).1).on s = r
    at hr
  cases hr with
  | error i path e s' => exact ⟨i, path, rfl, rfl⟩
  | ok parts s' =>
    exact ⟨.list (parts.map Segment.item), Segment.flatten_items parts, rfl⟩

end

/-- An evaluator that records its calls and fails at the expression `stop`. -/
def recorder : Evaluator (List String) String String where
  eval a _ := do
    modify (· ++ [a])
    if a = "stop" then throw a else return .text a
  exec a _ := do
    modify (· ++ [a])
    if a = "stop" then throw a

/-- Blocks of depth two around an expression. -/
def nest (inner : String) : List (BlockTree String) :=
  [.text "x", .output "a", .block [.effect "b", .block [.text "y", .output inner]], .output "d"]

/-- The recorder runs nested blocks to the end, or until the innermost expression fails. -/
theorem execute_compile_nest :
    recorder.IgnoresNames ∧
      (∃ tree : Tree, tree.flatten = "xaycd" ∧
        (execute (Nested.evaluator recorder) (compile (nest "c") .standard)).on [] =
          (.ok tree, ["a", "b", "c", "d"])) ∧
      (execute (Nested.evaluator recorder) (compile (nest "stop") .standard)).on [] =
        (.error (.eval 1 (.block (.eval 1 (.block (.eval 0 (.atom "stop")))))),
          ["a", "b", "stop"]) := by
  have hn : recorder.IgnoresNames := ⟨fun _ _ => rfl, fun _ _ => rfl⟩
  have hf (t : String) : (Tree.text t).flatten = t := by simp [Tree.flatten]
  refine ⟨hn, ?_, ?_⟩
  · have hw : (walk recorder 0 (nest "c")).on [] = (.ok "xaycd", ["a", "b", "c", "d"]) := by
      show (Except.ok ("x" ++ ((Tree.text "a").flatten ++ (("" ++ (("y" ++ ((Tree.text "c").flatten
        ++ "")) ++ "")) ++ ((Tree.text "d").flatten ++ "")))), _) = _
      rw [hf, hf, hf]
      rfl
    have h := execute_compile_renders hn (nest "c") .standard []
    rwa [hw] at h
  · obtain ⟨i, inner, he, h⟩ := execute_compile_renders hn (nest "stop") .standard []
    cases he
    exact h

end BlockTree

end TextTemplate
