import TextTemplate.Program.Chunk
import TextTemplate.Proofs.Program.Growth

/-!
# Chunks evaluated from left to right

A list of chunks is compiled first and run afterwards. The same text comes from a single walk over
the chunks, which evaluates every one of them where it stands.

- `Chunk.walk`: the walk.
- `Chunk.entries`: what the chunks add to a block, with their names.
- `feed_eq_extend`: feeding chunks to a compilation adds their entries.
- `walk_eq_walk_entries`: the walk over chunks is the walk over their entries.
- `execute_compile_eq_walk`: the main statement.
-/

namespace TextTemplate

namespace Chunk

variable {σ ε χ : Type}

/-- Evaluates chunks from left to right. `values` is the number of values that have come before,
`calls` that of the calls of the evaluator. -/
def walk (ev : Evaluator σ ε χ) (stem : String) (values calls : Nat) (env : Env) :
    List (Chunk ε) → Action σ (ExecError χ) (List (Segment Tree))
  | [] => return []
  | .text s :: rest => do
    let parts ← walk ev stem values calls env rest
    return .literal s :: parts
  | .expression .output e :: rest => do
    let v ← (ev.eval e env).mapError (.eval calls)
    let parts ← walk ev stem (values + 1) (calls + 1) (env.bind (.numbered stem values) v) rest
    return .value v :: parts
  | .expression .effect e :: rest => do
    (ev.exec e env).mapError (.eval calls)
    walk ev stem values (calls + 1) env rest
  | .expression (.other tag) e :: rest =>
    if tag = "#" ∨ tag = "comment" then walk ev stem values calls env rest
    else do
      (ev.exec e env).mapError (.eval calls)
      walk ev stem values (calls + 1) env rest

/-! ## Entries -/

/-- What chunks add to a block. The first value has the given number. -/
def entries (stem : String) (n : Nat) : List (Chunk ε) → List (Entry ε)
  | [] => []
  | .text s :: rest => .text s :: entries stem n rest
  | .expression .output e :: rest => .value (.numbered stem n) e :: entries stem (n + 1) rest
  | .expression .effect e :: rest => .effect e :: entries stem n rest
  | .expression (.other tag) e :: rest =>
    if isComment tag then entries stem n rest else .effect e :: entries stem n rest

/-- Whether a chunk is a value. -/
def isOutput : Chunk ε → Bool
  | .expression .output _ => true
  | _ => false

/-- The entries of the first chunk come first, and the names go on after it. -/
theorem entries_cons (stem : String) (n : Nat) (c : Chunk ε) (rest : List (Chunk ε)) :
    entries stem n (c :: rest) =
      entries stem n [c] ++ entries stem (n + [c].countP isOutput) rest := by
  match c with
  | .text s => rfl
  | .expression .output e => rfl
  | .expression .effect e => rfl
  | .expression (.other tag) e =>
    by_cases h : isComment tag <;> simp [entries, isOutput, h]

/-- Chunks take one number after the other for their values. -/
theorem numbered_entries (stem : String) (n : Nat) (chunks : List (Chunk ε)) :
    Entry.Numbered stem n (n + chunks.countP isOutput) (entries stem n chunks) := by
  induction chunks generalizing n with
  | nil => exact .of_names_eq_nil rfl (Nat.le_refl n)
  | cons c rest ih =>
    have hc : Entry.Numbered stem n (n + [c].countP isOutput) (entries stem n [c]) := by
      match c with
      | .text s => exact .of_names_eq_nil rfl (Nat.le_refl n)
      | .expression .output e => exact .value (Nat.le_refl n) e
      | .expression .effect e => exact .of_names_eq_nil rfl (Nat.le_refl n)
      | .expression (.other tag) e =>
        refine .of_names_eq_nil ?_ (Nat.le_refl n)
        rw [entries]
        split <;> rfl
    rw [entries_cons, ← List.singleton_append, List.countP_append, ← Nat.add_assoc]
    exact hc.append (ih _)

/-- The walk over chunks is the walk over their entries. -/
theorem walk_eq_walk_entries (ev : Evaluator σ ε χ) (stem : String) (values calls : Nat)
    (env : Env) (chunks : List (Chunk ε)) :
    walk ev stem values calls env chunks =
      Entry.walk ev calls env (entries stem values chunks) := by
  induction chunks generalizing values calls env with
  | nil => rfl
  | cons c rest ih =>
    match c with
    | .text s => simp only [walk, entries, Entry.walk, ih]
    | .expression .output e => simp only [walk, entries, Entry.walk, ih]
    | .expression .effect e => simp only [walk, entries, Entry.walk, ih]
    | .expression (.other tag) e =>
      have hc : isComment tag = true ↔ tag = "#" ∨ tag = "comment" := by simp [isComment]
      by_cases h : tag = "#" ∨ tag = "comment"
      · rw [walk, entries, if_pos h, if_pos (hc.2 h), ih]
      · rw [walk, entries, if_neg h, if_neg (mt hc.1 h), Entry.walk]
        simp only [ih]

end Chunk

namespace State

variable {ε : Type}

/-- A chunk that is fed to a compilation adds its entry, and takes a name if it is a value. -/
theorem chunk_eq_extend (s : State ε) (c : Chunk ε) (h : s.fallback = .standard) :
    s.chunk c = s.extend (Chunk.entries s.options.stem s.counter [c])
      (s.counter + [c].countP Chunk.isOutput) := by
  match c with
  | .text t => exact s.text_eq_extend t
  | .expression .output e => exact s.value_eq_extend e
  | .expression .effect e => exact s.effect_eq_extend e
  | .expression (.other tag) e =>
    show s.expression (.other tag) e = s.extend _ s.counter
    rw [other_eq_extend s tag e h, Chunk.entries]
    rfl

/-- Feeding chunks to a compilation adds their entries, and takes a name for every value. -/
theorem feed_eq_extend (s : State ε) (chunks : List (Chunk ε)) (h : s.fallback = .standard) :
    s.feed chunks = s.extend (Chunk.entries s.options.stem s.counter chunks)
      (s.counter + chunks.countP Chunk.isOutput) := by
  induction chunks generalizing s with
  | nil => exact s.extend_nil.symm
  | cons c rest ih =>
    rw [feed_cons, chunk_eq_extend s c h, ih (s.extend _ _) h, extend_extend, counter_extend,
      options_extend,
      ← Chunk.entries_cons, Nat.add_assoc, ← List.countP_append, List.singleton_append]

end State

namespace Chunk

variable {σ ε χ : Type}

/-- A list of chunks is compiled to the block of its entries. -/
theorem compile_eq_ofEntries (chunks : List (Chunk ε)) (options : Options) :
    compile chunks options = Block.ofEntries (entries options.stem 0 chunks) := by
  rw [compile, State.feed_eq_extend _ _ rfl]
  rfl

/-- **Compiling and running is walking**: from every state of the evaluator the program of a list of
chunks ends in the state in which the walk ends. It fails as the walk does, and otherwise gives the
list of the texts and of the shared values, of which the text is theirs, one after the other. -/
theorem execute_compile_eq_walk (ev : Evaluator σ ε χ) (chunks : List (Chunk ε))
    (options : Options) (s : σ) :
    match (walk ev options.stem 0 0 .empty chunks).on s with
    | (.error e, s') => (execute ev (compile chunks options)).on s = (.error e, s')
    | (.ok parts, s') =>
      (execute ev (compile chunks options)).on s = (.ok (.list (parts.map Segment.item)), s') ∧
        (Tree.list (parts.map Segment.item)).flatten = String.join (parts.map Segment.content) := by
  rw [compile_eq_ofEntries, execute_ofEntries ev _ (numbered_entries options.stem 0 chunks).nodup,
    Action.on_bind, walk_eq_walk_entries]
  rcases (Entry.walk ev 0 .empty (entries options.stem 0 chunks)).on s with ⟨e | parts, s'⟩
  · rfl
  · exact ⟨rfl, Segment.flatten_items parts⟩

end Chunk

end TextTemplate
