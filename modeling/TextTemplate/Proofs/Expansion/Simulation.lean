import TextTemplate.Proofs.Expansion.Entries
import TextTemplate.Proofs.Expansion.Meaning

/-!
# Entries whose code computes their trees

The expressions of a program are made code, and run, one by one. What a block adds to this is the
order of its statements and the names in its list.

- `IsAtom`: code of which nothing is known but that it is no generated name.
- `Env.Generated`: only generated names have values, so that all atoms are left alone.
- `Construct.Means`, `Block.Means`: the code of an expression or block computes a function.
- `means_code`, `means_choice`, `means_loop`: this is so if the code of the parts does.
- `Computes`: entries of which all expressions compute functions, and their code.
- `Computes.run`: one statement after the other, the code of entries makes their trees.
- `Computes.means`: a block of entries computes the list of their trees.
-/

namespace TextTemplate

/-- Code that is one word, but no name with the stem and a number. -/
def IsAtom (stem : String) (c : Code) : Prop :=
  ∃ a, c = [.word a] ∧ ∀ n, a ≠ (Ident.numbered stem n).name

/-- All names with the stem and a number are words of code. -/
def Ident.AreWords (stem : String) : Prop :=
  ∀ n, (numbered stem n).toToken = .ok (.word (numbered stem n).name)

namespace Env

/-- Only names with the stem and a number have values. -/
def Generated (stem : String) (env : Env) : Prop :=
  ∀ id, env.get? id ≠ none → ∃ n, id = .numbered stem n

theorem generated_empty (stem : String) : Generated stem empty :=
  fun id h => absurd (get?_empty id) h

theorem Generated.bind {stem : String} {env : Env} (h : env.Generated stem) (n : Nat) (v : Tree) :
    (env.bind (.numbered stem n) v).Generated stem := by
  intro id hid
  by_cases hn : Ident.numbered stem n = id
  · exact ⟨n, hn.symm⟩
  · rw [get?_bind_of_ne env v hn] at hid
    exact h id hid

/-- A word that is no such name has no value. -/
theorem Generated.get?_eq_none {stem : String} {env : Env} (h : env.Generated stem) {a : String}
    (ha : ∀ n, a ≠ (Ident.numbered stem n).name) : env.get? ⟨a⟩ = none := by
  by_cases hnone : env.get? ⟨a⟩ = none
  · exact hnone
  · obtain ⟨n, hn⟩ := h ⟨a⟩ hnone
    exact absurd (congrArg Ident.name hn) (ha n)

end Env

namespace Segment

/-- A part of a text as an item of a list in code, where values are not shared. -/
def leaf : Segment Tree → Tree
  | literal s => .text s
  | value v => v

end Segment

section

variable {σ ι : Type} (runtime : Code) (atoms : Atoms σ ι) (stem : String)

/-! ## Expressions -/

/-- The code of an expression computes a function wherever only generated names have values. -/
def Construct.Means (e : Construct) (f : σ → Tree × σ) : Prop :=
  ∃ code, e.render runtime = .ok code ∧ ∀ env s, env.Generated stem →
    Emitted.expr runtime atoms env s code = some (f s)

/-- The code of a block computes a function wherever only generated names have values. -/
def Block.Means (b : Block Construct) (f : σ → Tree × σ) : Prop :=
  ∃ code, Construct.renderBlock runtime b = .ok [.group .brace code] ∧
    ∀ env s, env.Generated stem → Emitted.block runtime atoms env s code = some (f s)

variable {runtime atoms stem}

namespace Construct

theorem means_code {c : Code} (h : IsAtom stem c) :
    Means runtime atoms stem (code c) (atoms.output c) := by
  obtain ⟨a, rfl, ha⟩ := h
  refine ⟨[.word a], ?_, ?_⟩
  · rw [render]
  · intro env s henv
    exact Emitted.expr_atom (henv.get?_eq_none ha)

theorem means_block {b : Block Construct} {f : σ → Tree × σ} (h : b.Means runtime atoms stem f) :
    Means runtime atoms stem (block b) f := by
  obtain ⟨code, hcode, hrun⟩ := h
  refine ⟨[.group .brace code], ?_, ?_⟩
  · rw [render, hcode]
  · intro env s henv
    rw [Emitted.expr_block, hrun env s henv]

theorem means_empty : Means runtime atoms stem empty fun s => (.empty, s) := by
  refine ⟨emitEmpty runtime, ?_, ?_⟩
  · rw [render]
  · intro env s henv
    rw [emitEmpty, Emitted.expr_block, Emitted.block_final (Emitted.Final.read?_empty runtime)]
    rfl

theorem means_choice {c : Code} {b : Block Construct} {e : Construct} {f g : σ → Tree × σ}
    (hc : IsAtom stem c) (hb : b.Means runtime atoms stem f) (he : e.Means runtime atoms stem g) :
    Means runtime atoms stem (choice c b e) fun s =>
      if (atoms.condition c s).1 then f (atoms.condition c s).2
      else g (atoms.condition c s).2 := by
  obtain ⟨a, rfl, ha⟩ := hc
  obtain ⟨body, hbody, hf⟩ := hb
  obtain ⟨otherwise, hotherwise, hg⟩ := he
  refine ⟨emitChoice [.word a] [.group .brace body] otherwise, ?_, ?_⟩
  · rw [render, hbody, hotherwise]
    rfl
  · intro env s henv
    rw [Emitted.expr_choice (henv.get?_eq_none ha), hf _ _ henv, hg _ _ henv]
    exact (apply_ite some _ _ _).symm

theorem means_loop {p i : Code} {b : Block Construct} {f : σ → Tree × σ} (n : Nat)
    (hname : (Ident.numbered stem n).toToken = .ok (.word (Ident.numbered stem n).name))
    (hp : IsAtom stem p) (hi : IsAtom stem i) (hb : b.Means runtime atoms stem f) :
    Means runtime atoms stem (loop (.numbered stem n) p i b) fun s =>
      (.list (Atoms.each (fun x s => f (atoms.bind p x s)) (atoms.iterator i s).1
          (atoms.iterator i s).2).1,
        (Atoms.each (fun x s => f (atoms.bind p x s)) (atoms.iterator i s).1
          (atoms.iterator i s).2).2) := by
  obtain ⟨p, rfl, hp⟩ := hp
  obtain ⟨i, rfl, hi⟩ := hi
  obtain ⟨body, hbody, hf⟩ := hb
  refine ⟨emitLoop runtime (.word (Ident.numbered stem n).name) [.word p] [.word i]
    [.group .brace body], ?_, ?_⟩
  · rw [render, hname, hbody]
    rfl
  · intro env s henv
    -- The name of the list is generated too, so that it hides neither the iterator nor the pattern.
    have hlist := henv.bind n (.list [])
    refine Emitted.expr_loop (hlist.get?_eq_none hp) (hlist.get?_eq_none hi) ?_
    intro trees x s
    rw [Emitted.expr_block]
    exact hf _ _ (hlist.bind n (.list trees))

end Construct

/-! ## Blocks -/

variable (runtime atoms stem)

/-- Entries whose expressions compute functions, the same entries with their code, and the trees
that they make one after the other. -/
inductive Computes : List (Entry Construct) → List (Entry Code) → (σ → List Tree × σ) → Prop
  | nil : Computes [] [] fun s => ([], s)
  | text (t : String) {es : List (Entry Construct)} {cs : List (Entry Code)}
      {f : σ → List Tree × σ} (h : Computes es cs f) :
      Computes (.text t :: es) (.text t :: cs) fun s => (.text t :: (f s).1, (f s).2)
  | value (n : Nat) {e : Construct} {c : Code} {g : σ → Tree × σ} {es : List (Entry Construct)}
      {cs : List (Entry Code)} {f : σ → List Tree × σ} (hc : e.render runtime = .ok c)
      (hg : ∀ env s, env.Generated stem → Emitted.expr runtime atoms env s c = some (g s))
      (h : Computes es cs f) :
      Computes (.value (.numbered stem n) e :: es) (.value (.numbered stem n) c :: cs) fun s =>
        ((g s).1 :: (f (g s).2).1, (f (g s).2).2)
  | effect {c : Code} {es : List (Entry Construct)} {cs : List (Entry Code)}
      {f : σ → List Tree × σ} (hc : IsAtom stem c) (h : Computes es cs f) :
      Computes (.effect (.code c) :: es) (.effect c :: cs) fun s => f (atoms.effect c s)

variable {runtime atoms stem}

namespace Computes

theorem append {es fs : List (Entry Construct)} {cs ds : List (Entry Code)}
    {f g : σ → List Tree × σ} (hf : Computes runtime atoms stem es cs f)
    (hg : Computes runtime atoms stem fs ds g) :
    Computes runtime atoms stem (es ++ fs) (cs ++ ds) fun s =>
      ((f s).1 ++ (g (f s).2).1, (g (f s).2).2) := by
  induction hf with
  | nil => exact hg
  | text t _ ih => exact ih.text t
  | value n hc hg _ ih => exact ih.value n hc hg
  | effect hc _ ih => exact ih.effect hc

/-- The code of entries has their names and their fragments. -/
theorem names_eq {es : List (Entry Construct)} {cs : List (Entry Code)} {f : σ → List Tree × σ}
    (h : Computes runtime atoms stem es cs f) : Entry.names cs = Entry.names es := by
  induction h with
  | nil => rfl
  | text t _ ih => exact ih
  | value n _ _ _ ih => exact congrArg (Ident.numbered stem n :: ·) ih
  | effect _ _ ih => exact ih

theorem fragments_eq {es : List (Entry Construct)} {cs : List (Entry Code)}
    {f : σ → List Tree × σ} (h : Computes runtime atoms stem es cs f) :
    (Block.ofEntries cs).fragments = (Block.ofEntries es).fragments := by
  induction h with
  | nil => rfl
  | text t _ ih => exact congrArg (Fragment.text t :: ·) ih
  | value n _ _ _ ih => exact congrArg (Fragment.ref (.numbered stem n) :: ·) ih
  | effect _ _ ih => exact ih

theorem renderStatements_eq {es : List (Entry Construct)} {cs : List (Entry Code)}
    {f : σ → List Tree × σ} (h : Computes runtime atoms stem es cs f) :
    Construct.renderStatements runtime (Block.ofEntries es).statements =
      .ok (Block.ofEntries cs).statements := by
  induction h with
  | nil => rfl
  | text t _ ih => exact ih
  | value n hc _ _ ih =>
    rw [Block.statements_ofEntries_value, Construct.renderStatements, Construct.renderStatement,
      hc, ih]
    rfl
  | effect hc _ ih =>
    rw [Block.statements_ofEntries_effect, Construct.renderStatements, Construct.renderStatement,
      Construct.render, ih]
    rfl

/-- One statement after the other, the code of entries makes their trees. In the end the names of
the entries have the values that stand for these trees, and all other names have kept theirs. -/
theorem run {es : List (Entry Construct)} {cs : List (Entry Code)} {f : σ → List Tree × σ}
    (h : Computes runtime atoms stem es cs f) (hnodup : (Entry.names cs).Nodup) {env : Env}
    (henv : env.Generated stem) (s : σ) {tail : Code}
    (htail : Emitted.Final.width runtime ≤ tail.length) :
    ∃ env' parts, Entry.Explains cs parts env env' ∧ parts.map Segment.leaf = (f s).1 ∧
      Emitted.block runtime atoms env s
          ((Block.ofEntries cs).statements.flatMap (Statement.code runtime) ++ tail) =
        Emitted.block runtime atoms env' (f s).2 tail := by
  have hrest (front : Code) : Emitted.Final.width runtime ≤ (front ++ tail).length := by
    rw [List.length_append]
    exact Nat.le_trans htail (Nat.le_add_left _ _)
  -- The induction is on the entries that are left; the names before them are in the environment.
  induction h generalizing env s with
  | nil => exact ⟨env, [], ⟨rfl, fun _ _ => rfl⟩, rfl, rfl⟩
  | text t _ ih =>
    obtain ⟨env', parts, hx, hparts, hrun⟩ := ih hnodup henv s
    exact ⟨env', .literal t :: parts, hx.text t, congrArg (Tree.text t :: ·) hparts, hrun⟩
  | @value n e c g es cs f hc hg _ ih =>
    obtain ⟨hid, hnames⟩ := List.nodup_cons.1 hnodup
    obtain ⟨env', parts, hx, hparts, hrun⟩ := ih hnames (henv.bind n (g s).1) (g s).2
    refine ⟨env', .value (g s).1 :: parts, hx.value c hid, ?_, ?_⟩
    · exact congrArg ((g s).1 :: ·) hparts
    · have hstep : Emitted.statement runtime atoms env s (.bind (.numbered stem n) c) =
          some (env.bind (.numbered stem n) (g s).1, (g s).2) := by
        rw [Emitted.statement_bind, hg env s henv]
        rfl
      rw [← hrun, Block.statements_ofEntries_value, List.flatMap_cons, List.append_assoc]
      exact Emitted.block_step (Emitted.Step.read?_binding _ _ _ _) (hrest _) hstep
  | @effect c es cs f hc _ ih =>
    obtain ⟨a, rfl, ha⟩ := hc
    obtain ⟨env', parts, hx, hparts, hrun⟩ := ih hnodup henv (atoms.effect [.word a] s)
    refine ⟨env', parts, hx.effect [.word a], hparts, ?_⟩
    have hstep : Emitted.statement runtime atoms env s (.effect [.word a]) =
        some (env, atoms.effect [.word a] s) := Emitted.statement_effect (henv.get?_eq_none ha)
    rw [← hrun, Block.statements_ofEntries_effect, List.flatMap_cons, List.append_assoc]
    exact Emitted.block_step (Emitted.Step.read?_effect _ _ _) (hrest _) hstep

/-- A block of entries computes the list of their trees. -/
theorem means {es : List (Entry Construct)} {cs : List (Entry Code)} {f : σ → List Tree × σ}
    (h : Computes runtime atoms stem es cs f) {m k : Nat} (hes : Entry.Numbered stem m k es)
    (hwords : Ident.AreWords stem) :
    (Block.ofEntries es).Means runtime atoms stem fun s => (.list (f s).1, (f s).2) := by
  have hcode : Construct.renderBlock runtime (Block.ofEntries es) =
      .ok [.group .brace ((Block.ofEntries cs).code runtime)] := by
    rw [Construct.renderBlock, h.renderStatements_eq, ← h.fragments_eq]
    refine Block.emit_eq_code runtime (Block.ofEntries cs) ?_
    intro id hid
    rw [Block.bindings_ofEntries, Block.references_ofEntries, List.mem_append, or_self,
      h.names_eq] at hid
    obtain ⟨n, -, -, rfl⟩ := hes.exists_number id hid
    exact hwords n
  refine ⟨(Block.ofEntries cs).code runtime, hcode, ?_⟩
  intro env s henv
  have htail := Nat.le_of_eq (Emitted.Final.length_call runtime "FragmentTree" "List"
    (Emit.path [] ["std", "vec"] ++ Emit.mark '!' ++ [.group .bracket
      (Emit.commas ((Block.ofEntries cs).fragments.map (Fragment.code runtime)))])).symm
  obtain ⟨env', parts, hx, hparts, hrun⟩ := h.run (h.names_eq ▸ hes.nodup) henv s htail
  have hleaf : ∀ f part, env'.part? f = some part → Emitted.leaf? env' f = pure part.leaf := by
    intro f part hf
    cases f with
    | text s =>
      cases hf
      rfl
    | ref id =>
      obtain ⟨v, hv, rfl⟩ := Option.map_eq_some_iff.1 hf
      exact hv
  rw [Block.code, Emit.list, hrun, ← Emit.list,
    Emitted.block_final (Emitted.Final.read?_list runtime _), Emitted.Final.tree?,
    Env.mapM_of_parts hleaf hx.parts, hparts]
  rfl

end Computes

end

end TextTemplate
