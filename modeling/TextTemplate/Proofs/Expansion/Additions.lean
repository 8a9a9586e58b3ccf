import TextTemplate.Proofs.Expansion.Listing

/-!
# What nodes add to a compilation

Nodes are added to a block one after the other, and nothing that is in the block already is looked
at. So what they add can be told from the nodes and the number of the first name.

- `Node.everywhere`: the nodes of a template, at every depth.
- `nameCountAll_eq`: the names that nodes take, counted at every depth.
- `Node.ranked`: nodes with the number of the names before them.
- `Node.statement?`, `Node.fragment?`: the part that a node has in a block.
- `ofEntries_entries`: nodes add their parts.
- `renderStatements_append`: statements are made code one after the other.
- `addNodes_appends`: the main statement.
-/

namespace TextTemplate

/-! ## Nodes at every depth -/

namespace Node

/-- The nodes of a template, with all nodes inside of them. -/
def everywhere (nodes : List Node) : List Node := (bodies nodes).flatten

/-- Whether a node is code of which the value is output. -/
def isOutput : Node → Bool
  | .chunk .output _ => true
  | _ => false

/-- Whether a node is a choice. -/
def isChoice : Node → Bool
  | .choice _ _ _ => true
  | _ => false

/-- Whether a node is a loop. -/
def isLoop : Node → Bool
  | .loop _ _ _ => true
  | _ => false

/-- The names that nodes take for themselves, without those of the nodes inside of them. -/
def ownNames (nodes : List Node) : Nat :=
  nodes.countP isOutput + nodes.countP isChoice + 2 * nodes.countP isLoop

theorem ownNames_append (a b : List Node) : ownNames (a ++ b) = ownNames a + ownNames b := by
  simp only [ownNames, List.countP_append]
  omega

mutual

theorem nameCount_eq (n : Node) : n.nameCount = ownNames [n] + ownNames n.inner.flatten := by
  match n with
  | .text _ | .chunk .output _ | .chunk .effect _ | .chunk (.other _) _ => rfl
  | .choice condition body rest =>
    have hown : ownNames [.choice condition body rest] = 1 := rfl
    rw [Node.nameCount, nameCountAll_eq_own body, alternativeNameCount_eq rest, Node.inner,
      List.flatten_cons, List.flatten_append, ownNames_append, ownNames_append, hown]
    omega
  | .loop pattern iterator body =>
    have hown : ownNames [.loop pattern iterator body] = 2 := rfl
    rw [Node.nameCount, nameCountAll_eq_own body, Node.inner, List.flatten_cons, ownNames_append,
      hown]
    omega

theorem nameCountAll_eq_own (nodes : List Node) :
    Node.nameCountAll nodes = ownNames nodes + ownNames (Node.innerAll nodes).flatten := by
  match nodes with
  | [] => rfl
  | n :: rest =>
    have hcons : ownNames (n :: rest) = ownNames [n] + ownNames rest := ownNames_append [n] rest
    rw [Node.nameCountAll, nameCount_eq n, nameCountAll_eq_own rest, Node.innerAll,
      List.flatten_append, ownNames_append, hcons]
    omega

theorem alternativeNameCount_eq (rest : Alternative) :
    rest.nameCount = ownNames rest.inner.flatten := by
  match rest with
  | .nothing => rfl
  | .otherwise body =>
    rw [Alternative.nameCount, nameCountAll_eq_own body, Alternative.inner, List.flatten_cons,
      ownNames_append]
  | .elseIf condition body rest =>
    rw [Alternative.nameCount, nameCountAll_eq_own body, alternativeNameCount_eq rest,
      Alternative.inner, List.flatten_cons, List.flatten_append, ownNames_append, ownNames_append]
    omega

end

/-- The names that nodes take, counted at every depth. -/
theorem nameCountAll_eq (nodes : List Node) :
    nameCountAll nodes = (everywhere nodes).countP isOutput + (everywhere nodes).countP isChoice +
      2 * (everywhere nodes).countP isLoop := by
  rw [nameCountAll_eq_own, ← ownNames_append]
  rfl

end Node

/-! ## Parts of nodes -/

/-- The state at the beginning of a block that `n` names come before. -/
def State.after {ε : Type} (stem : String) (n : Nat) : State ε := ⟨.empty, n, ⟨0, stem⟩, .standard⟩

namespace Node

/-- Nodes with the number of the names before each. -/
def ranked (n : Nat) : List Node → List (Nat × Node)
  | [] => []
  | node :: rest => (n, node) :: ranked (n + node.nameCount) rest

variable (stem : String)

/-- The name of the value of a node: of all the names that it takes, it is the last one. -/
def valueName (n : Nat) (node : Node) : Ident := .numbered stem (n + node.nameCount - 1)

/-- The fragment of a node. -/
def fragment? : Nat × Node → Option Fragment
  | (_, .text t) => some (.text t)
  | (_, .chunk .effect _) | (_, .chunk (.other _) _) => none
  | (n, .chunk .output _) => some (.ref (.numbered stem n))
  | (n, .choice condition body rest) =>
    some (.ref ((Node.choice condition body rest).valueName stem n))
  | (n, .loop pattern iterator body) =>
    some (.ref ((Node.loop pattern iterator body).valueName stem n))

/-- The statement of a node. The blocks inside of it are compiled by themselves. -/
def statement? : Nat × Node → Option (Statement Construct)
  | (_, .text _) => none
  | (n, .chunk .output c) => some (.bind (.numbered stem n) (.code c))
  | (_, .chunk .effect c) => some (.effect (.code c))
  | (_, .chunk (.other tag) c) => if isComment tag then none else some (.effect (.code c))
  | (n, .choice condition body rest) =>
    some (.bind ((Node.choice condition body rest).valueName stem n)
      (.choice condition (Construct.addNodes (.after stem n) body).scope
        (Construct.alternative (.after stem (n + nameCountAll body)) rest).1))
  | (n, .loop pattern iterator body) =>
    some (.bind ((Node.loop pattern iterator body).valueName stem n)
      (.loop (.numbered stem n) pattern iterator
        (Construct.addNodes (.after stem (n + 1)) body).scope))

end Node

namespace Construct

variable (stem : String) (n : Nat)

theorem scope_addNodes_after (body : List Node) :
    (addNodes (.after stem n) body).scope = Block.ofEntries (entries stem n body).1 := by
  rw [addNodes_eq_extend _ _ rfl]
  rfl

/-- A node adds its parts to a block. -/
theorem ofEntries_entry (node : Node) : Block.ofEntries (entry stem n node).1 =
    ⟨(Node.statement? stem (n, node)).toList, (Node.fragment? stem (n, node)).toList⟩ := by
  match node with
  | .text t => rfl
  | .chunk .output c => rfl
  | .chunk .effect c => rfl
  | .chunk (.other tag) c =>
    rw [entry, Node.statement?, Node.fragment?]
    split <;> rfl
  | .choice condition body rest =>
    have hname : (Node.choice condition body rest).valueName stem n =
        .numbered stem (ofAlternative stem (entries stem n body).2 rest).2 := by
      rw [snd_ofAlternative, snd_entries, Node.valueName, Node.nameCount, ← Nat.add_assoc,
        Nat.add_sub_cancel, Nat.add_assoc]
    rw [Node.statement?, Node.fragment?, scope_addNodes_after,
      alternative_eq_extend _ _ rfl, hname, ← snd_entries]
    rfl
  | .loop pattern iterator body =>
    have hname : (Node.loop pattern iterator body).valueName stem n =
        .numbered stem (entries stem (n + 1) body).2 := by
      rw [snd_entries, Node.valueName, Node.nameCount]
      congr 1
      omega
    rw [Node.statement?, Node.fragment?, scope_addNodes_after, hname]
    rfl

/-- Nodes add their parts to a block, in order. -/
theorem ofEntries_entries (nodes : List Node) : Block.ofEntries (entries stem n nodes).1 =
    ⟨(Node.ranked n nodes).filterMap (Node.statement? stem),
      (Node.ranked n nodes).filterMap (Node.fragment? stem)⟩ := by
  induction nodes generalizing n with
  | nil => rfl
  | cons node rest ih =>
    have hcons {α : Type} (f : Nat × Node → Option α) (ranked : List (Nat × Node)) :
        ((n, node) :: ranked).filterMap f = (f (n, node)).toList ++ ranked.filterMap f := by
      cases h : f (n, node) with
      | none => exact List.filterMap_cons_none h
      | some x => exact List.filterMap_cons_some h
    rw [entries]
    dsimp only
    rw [Block.ofEntries_append, ofEntries_entry, ih, snd_entry, Node.ranked, hcons, hcons]
    rfl

/-! ## Adding nodes -/

theorem addNodes_append (s : State Construct) (a b : List Node) :
    addNodes s (a ++ b) = addNodes (addNodes s a) b := by
  induction a generalizing s with
  | nil => rfl
  | cons node a ih => exact ih (addNode s node)

/-- Statements are made code one after the other. -/
theorem renderStatements_append (runtime : Code) (old new : List (Statement Construct)) :
    renderStatements runtime (old ++ new) = do
      let old ← renderStatements runtime old
      let new ← renderStatements runtime new
      return old ++ new := by
  induction old with
  | nil =>
    rw [List.nil_append, renderStatements]
    cases renderStatements runtime new <;> rfl
  | cons s old ih =>
    rw [List.cons_append, renderStatements, renderStatements, ih]
    cases renderStatement runtime s with
    | error e => rfl
    | ok s =>
      cases renderStatements runtime old with
      | error e => rfl
      | ok old => cases renderStatements runtime new <;> rfl

/-- **Adding nodes is adding their parts.** Nodes may be added in portions. What is in the block
stays there, and what comes after it is what the nodes give in a block that is empty, if the same
names are given there, however the statements are made code afterwards. These are the parts of the
nodes, in order. The names that are taken are one for each output and each choice and two for each
loop, at every depth. -/
theorem addNodes_appends (s : State Construct) (h : s.fallback = .standard) (a b : List Node) :
    addNodes s (a ++ b) = addNodes (addNodes s a) b ∧
      (∀ s' : State Construct, s'.scope = .empty → s'.counter = s.counter →
        s'.options.stem = s.options.stem → s'.fallback = .standard →
        (addNodes s a).scope = s.scope ++ (addNodes s' a).scope ∧
        ∀ runtime, renderStatements runtime (addNodes s a).scope.statements = do
          let old ← renderStatements runtime s.scope.statements
          let new ← renderStatements runtime (addNodes s' a).scope.statements
          return old ++ new) ∧
      (addNodes s a).scope = s.scope ++
        ⟨(Node.ranked s.counter a).filterMap (Node.statement? s.options.stem),
          (Node.ranked s.counter a).filterMap (Node.fragment? s.options.stem)⟩ ∧
      (addNodes s a).counter = s.counter + ((Node.everywhere a).countP Node.isOutput +
        (Node.everywhere a).countP Node.isChoice + 2 * (Node.everywhere a).countP Node.isLoop) ∧
      (addNodes s a).options = s.options ∧ (addNodes s a).fallback = s.fallback := by
  have hadd := addNodes_eq_extend s a h
  refine ⟨addNodes_append s a b, fun s' hscope hcounter hstem hfallback => ?_, ?_, ?_, ?_, ?_⟩
  · have hadd' := addNodes_eq_extend s' a hfallback
    have hblock : (addNodes s a).scope = s.scope ++ (addNodes s' a).scope := by
      rw [hadd, hadd', hcounter, hstem, State.scope_extend, State.scope_extend, hscope,
        Block.empty_append]
    refine ⟨hblock, fun runtime => ?_⟩
    rw [hblock, Block.statements_append, renderStatements_append]
  · rw [hadd, State.scope_extend, ofEntries_entries]
  · rw [hadd, State.counter_extend, snd_entries, Node.nameCountAll_eq]
  · rw [hadd, State.options_extend]
  · rw [hadd, State.fallback_extend]

/-- A block in which something stands already. -/
def begun : State Construct :=
  ⟨⟨[.effect (code [.word "e"])], [.text "so far"]⟩, 5, ⟨2, "v"⟩, .standard⟩

/-- The choice gets its name after those of the loop inside of it. -/
theorem addNodes_appends_sample :
    begun.fallback = .standard ∧
      addNodes begun (Node.sample ++ Node.sample) =
        addNodes (addNodes begun Node.sample) Node.sample ∧
      (addNodes begun Node.sample).scope.fragments =
        [.text "so far", .text "x", .ref (.numbered "v" 8)] ∧
      (addNodes begun Node.sample).scope =
        begun.scope ++ (addNodes (.after "v" 5) Node.sample).scope ∧
      (addNodes begun Node.sample).counter = 9 := by
  obtain ⟨hportions, hframe, hparts, hcounter, -, -⟩ :=
    addNodes_appends begun rfl Node.sample Node.sample
  refine ⟨rfl, hportions, ?_, (hframe (.after "v" 5) rfl rfl rfl rfl).1, hcounter⟩
  rw [hparts]
  rfl

end Construct

end TextTemplate
