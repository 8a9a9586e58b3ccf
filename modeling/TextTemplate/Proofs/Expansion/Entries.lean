import TextTemplate.Expansion.Construct
import TextTemplate.Proofs.Program.Growth

/-!
# What nodes add to a block

- `Construct.entry`, `Construct.entries`: what nodes add to the block that is being filled, with the
  names that they take.
- `Construct.ofAlternative`: what is left of a choice, as an expression.
- `addNodes_eq_extend`: the compilation adds the entries and counts their names.
- `numbered_entries`: the names of a block are different, however deep its nodes are nested.
- `ofNodes_eq_ofEntries`: the program of a list of nodes.
-/

namespace TextTemplate

namespace Construct

mutual

/-- What a node adds to a block, and the number of the next name. A choice takes its name after all
blocks inside of it; a loop takes one for its list before its block, and its own after it. -/
def entry (stem : String) (n : Nat) : Node → List (Entry Construct) × Nat
  | .text t => ([.text t], n)
  | .chunk .output c => ([.value (.numbered stem n) (code c)], n + 1)
  | .chunk .effect c => ([.effect (code c)], n)
  | .chunk (.other tag) c => (if isComment tag then [] else [.effect (code c)], n)
  | .choice condition body rest =>
    let (inner, m) := entries stem n body
    let (otherwise, k) := ofAlternative stem m rest
    ([.value (.numbered stem k) (choice condition (Block.ofEntries inner) otherwise)], k + 1)
  | .loop pattern iterator body =>
    let (inner, m) := entries stem (n + 1) body
    ([.value (.numbered stem m)
      (loop (.numbered stem n) pattern iterator (Block.ofEntries inner))], m + 1)

/-- What nodes add to a block, and the number of the next name. -/
def entries (stem : String) (n : Nat) : List Node → List (Entry Construct) × Nat
  | [] => ([], n)
  | node :: rest =>
    let (front, m) := entry stem n node
    let (back, k) := entries stem m rest
    (front ++ back, k)

/-- The expression of what is left of a choice, and the number of the next name. -/
def ofAlternative (stem : String) (n : Nat) : Alternative → Construct × Nat
  | .nothing => (empty, n)
  | .otherwise body =>
    let (inner, m) := entries stem n body
    (block (Block.ofEntries inner), m)
  | .elseIf condition body rest =>
    let (inner, m) := entries stem n body
    let (otherwise, k) := ofAlternative stem m rest
    (choice condition (Block.ofEntries inner) otherwise, k)

end

/-! ## Steps of the compilation -/

mutual

/-- Compiling a node adds its entry to the block that is being filled, and counts its names. -/
theorem addNode_eq_extend (s : State Construct) (node : Node) (h : s.fallback = .standard) :
    addNode s node =
      s.extend (entry s.options.stem s.counter node).1 (entry s.options.stem s.counter node).2 := by
  match node with
  | .text t => exact s.text_eq_extend t
  | .chunk .output c => exact s.value_eq_extend (code c)
  | .chunk .effect c => exact s.effect_eq_extend (code c)
  | .chunk (.other tag) c => exact s.other_eq_extend tag (code c) h
  | .choice condition body rest =>
    rw [addNode]
    dsimp only
    rw [addNodes_eq_extend s.begin.2 body h, State.finish_extend]
    dsimp only
    rw [alternative_eq_extend (s.extend [] _) rest h, State.extend_extend]
    show ((s.extend [] _).value _).2 = _
    rw [State.value_eq_extend, State.extend_extend]
    rfl
  | .loop pattern iterator body =>
    rw [addNode]
    dsimp only
    rw [addNodes_eq_extend s.fresh.2.begin.2 body h, State.finish_extend]
    show ((s.fresh.2.extend [] _).value _).2 = _
    rw [State.value_eq_extend, State.extend_extend]
    rfl

/-- Compiling nodes adds their entries, in order. -/
theorem addNodes_eq_extend (s : State Construct) (nodes : List Node) (h : s.fallback = .standard) :
    addNodes s nodes =
      s.extend (entries s.options.stem s.counter nodes).1
        (entries s.options.stem s.counter nodes).2 := by
  match nodes with
  | [] => exact s.extend_nil.symm
  | node :: rest =>
    rw [addNodes, addNode_eq_extend s node h, addNodes_eq_extend (s.extend _ _) rest h,
      State.extend_extend]
    rfl

/-- Compiling what is left of a choice only counts names. -/
theorem alternative_eq_extend (s : State Construct) (rest : Alternative)
    (h : s.fallback = .standard) :
    alternative s rest = ((ofAlternative s.options.stem s.counter rest).1,
      s.extend [] (ofAlternative s.options.stem s.counter rest).2) := by
  match rest with
  | .nothing => rw [alternative, ofAlternative, s.extend_nil]
  | .otherwise body =>
    rw [alternative]
    dsimp only
    rw [addNodes_eq_extend s.begin.2 body h, State.finish_extend]
    rfl
  | .elseIf condition body rest =>
    rw [alternative]
    dsimp only
    rw [addNodes_eq_extend s.begin.2 body h, State.finish_extend]
    dsimp only
    rw [alternative_eq_extend (s.extend [] _) rest h, State.extend_extend]
    rfl

end

/-! ## Names -/

mutual

/-- A node binds one name at most, which comes after those inside of it. -/
theorem numbered_entry (stem : String) (n : Nat) (node : Node) :
    Entry.Numbered stem n (entry stem n node).2 (entry stem n node).1 := by
  match node with
  | .text t => exact .of_names_eq_nil rfl (Nat.le_refl n)
  | .chunk .output c => exact .value (Nat.le_refl n) _
  | .chunk .effect c => exact .of_names_eq_nil rfl (Nat.le_refl n)
  | .chunk (.other tag) c =>
    refine .of_names_eq_nil ?_ (Nat.le_refl n)
    rw [entry]
    split <;> rfl
  | .choice condition body rest =>
    have hbody := (numbered_entries stem n body).le
    have hrest := le_ofAlternative stem (entries stem n body).2 rest
    exact .value (Nat.le_trans hbody hrest) _
  | .loop pattern iterator body =>
    have hbody := (numbered_entries stem (n + 1) body).le
    exact .value (Nat.le_trans (Nat.le_succ n) hbody) _

/-- Nodes take their names one after the other. -/
theorem numbered_entries (stem : String) (n : Nat) (nodes : List Node) :
    Entry.Numbered stem n (entries stem n nodes).2 (entries stem n nodes).1 := by
  match nodes with
  | [] => exact .of_names_eq_nil rfl (Nat.le_refl n)
  | node :: rest =>
    exact (numbered_entry stem n node).append (numbered_entries stem (entry stem n node).2 rest)

theorem le_ofAlternative (stem : String) (n : Nat) (rest : Alternative) :
    n ≤ (ofAlternative stem n rest).2 := by
  match rest with
  | .nothing => exact Nat.le_refl n
  | .otherwise body => exact (numbered_entries stem n body).le
  | .elseIf condition body rest =>
    exact Nat.le_trans (numbered_entries stem n body).le (le_ofAlternative stem _ rest)

end

/-- The program of a list of nodes is the block of its entries. -/
theorem ofNodes_eq_ofEntries (nodes : List Node) (options : Options) :
    ofNodes nodes options = Block.ofEntries (entries options.stem 0 nodes).1 := by
  rw [ofNodes, addNodes_eq_extend (State.init options).begin.2 nodes rfl]
  rfl

end Construct

end TextTemplate
