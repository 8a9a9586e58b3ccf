import TextTemplate.Proofs.Expansion.Entries
import TextTemplate.Proofs.Expansion.Simulation

/-!
# The code of a template means what the template means

- `Node.codes`, `Node.allCodes`: the pieces of code in nodes.
- `computes_entries`: nodes compute their trees, by induction on the nesting.
- `Template.run_compile`: the main statement.
-/

namespace TextTemplate

/-! ## Nodes -/

mutual

/-- The pieces of code of a node, in order. Remarks are left out. -/
def Node.codes : Node → List Code
  | .text _ => []
  | .chunk .output c => [c]
  | .chunk .effect c => [c]
  | .chunk (.other tag) c => if isComment tag then [] else [c]
  | .choice condition body rest => condition :: (Node.allCodes body ++ rest.codes)
  | .loop pattern iterator body => pattern :: iterator :: Node.allCodes body

/-- The pieces of code of nodes, in order. -/
def Node.allCodes : List Node → List Code
  | [] => []
  | n :: rest => n.codes ++ Node.allCodes rest

/-- The pieces of code of what is left of a choice, in order. -/
def Alternative.codes : Alternative → List Code
  | .nothing => []
  | .otherwise body => Node.allCodes body
  | .elseIf condition body rest => condition :: (Node.allCodes body ++ rest.codes)

end

section

variable {σ ι : Type} {runtime : Code} {atoms : Atoms σ ι} {stem : String}

mutual

/-- A node computes its trees. -/
theorem computes_entry (hwords : Ident.AreWords stem) (n : Nat) (node : Node)
    (h : ∀ c ∈ node.codes, IsAtom stem c) :
    ∃ cs, Computes runtime atoms stem (Construct.entry stem n node).1 cs (atoms.node node) := by
  match node with
  | .text t => exact ⟨_, .text t .nil⟩
  | .chunk .output c =>
    obtain ⟨code, hcode, hrun⟩ := Construct.means_code (h c List.mem_cons_self)
    exact ⟨_, .value n hcode hrun .nil⟩
  | .chunk .effect c => exact ⟨_, .effect (h c List.mem_cons_self) .nil⟩
  | .chunk (.other tag) c =>
    rw [Node.codes] at h
    by_cases ht : isComment tag = true
    · have hf : atoms.node (.chunk (.other tag) c) = fun s => ([], s) := by
        funext s
        rw [Atoms.node, if_pos ht]
      rw [Construct.entry, if_pos ht, hf]
      exact ⟨_, .nil⟩
    · have hf : atoms.node (.chunk (.other tag) c) = fun s => ([], atoms.effect c s) := by
        funext s
        rw [Atoms.node, if_neg ht]
      rw [if_neg ht] at h
      rw [Construct.entry, if_neg ht, hf]
      exact ⟨_, .effect (h c List.mem_cons_self) .nil⟩
  | .choice c body rest =>
    rw [Node.codes, List.forall_mem_cons, List.forall_mem_append] at h
    obtain ⟨hc, hinner, hothers⟩ := h
    obtain ⟨cs, hcs⟩ := computes_entries hwords n body hinner
    have hbody := hcs.means (Construct.numbered_entries stem n body) hwords
    have hrest := means_alternative hwords (Construct.entries stem n body).2 rest hothers
    obtain ⟨code, hcode, hrun⟩ := Construct.means_choice hc hbody hrest
    have hf : atoms.node (.choice c body rest) = fun s =>
        ([(if (atoms.condition c s).1 then
            (Tree.list (atoms.nodes body (atoms.condition c s).2).1,
              (atoms.nodes body (atoms.condition c s).2).2)
          else atoms.alternative rest (atoms.condition c s).2).1],
          (if (atoms.condition c s).1 then
            (Tree.list (atoms.nodes body (atoms.condition c s).2).1,
              (atoms.nodes body (atoms.condition c s).2).2)
          else atoms.alternative rest (atoms.condition c s).2).2) := by
      funext s
      rw [Atoms.node]
      dsimp only
      split <;> rfl
    rw [hf]
    exact ⟨_, .value _ hcode hrun .nil⟩
  | .loop p i body =>
    rw [Node.codes, List.forall_mem_cons, List.forall_mem_cons] at h
    obtain ⟨hp, hi, hinner⟩ := h
    obtain ⟨cs, hcs⟩ := computes_entries hwords (n + 1) body hinner
    have hbody := hcs.means (Construct.numbered_entries stem (n + 1) body) hwords
    obtain ⟨code, hcode, hrun⟩ := Construct.means_loop n (hwords n) hp hi hbody
    exact ⟨_, .value _ hcode hrun .nil⟩

/-- Nodes compute their trees, one after the other. -/
theorem computes_entries (hwords : Ident.AreWords stem) (n : Nat) (nodes : List Node)
    (h : ∀ c ∈ Node.allCodes nodes, IsAtom stem c) :
    ∃ cs, Computes runtime atoms stem (Construct.entries stem n nodes).1 cs
      (atoms.nodes nodes) := by
  match nodes with
  | [] => exact ⟨_, .nil⟩
  | node :: rest =>
    rw [Node.allCodes, List.forall_mem_append] at h
    obtain ⟨hfront, hback⟩ := h
    obtain ⟨cs, hcs⟩ := computes_entry hwords n node hfront
    obtain ⟨ds, hds⟩ := computes_entries hwords (Construct.entry stem n node).2 rest hback
    exact ⟨_, hcs.append hds⟩

/-- What is left of a choice computes its tree. -/
theorem means_alternative (hwords : Ident.AreWords stem) (n : Nat) (rest : Alternative)
    (h : ∀ c ∈ rest.codes, IsAtom stem c) :
    (Construct.ofAlternative stem n rest).1.Means runtime atoms stem (atoms.alternative rest) := by
  match rest with
  | .nothing => exact Construct.means_empty
  | .otherwise body =>
    obtain ⟨cs, hcs⟩ := computes_entries hwords n body h
    exact Construct.means_block (hcs.means (Construct.numbered_entries stem n body) hwords)
  | .elseIf c body rest =>
    rw [Alternative.codes, List.forall_mem_cons, List.forall_mem_append] at h
    obtain ⟨hc, hinner, hothers⟩ := h
    obtain ⟨cs, hcs⟩ := computes_entries hwords n body hinner
    have hbody := hcs.means (Construct.numbered_entries stem n body) hwords
    have hrest := means_alternative hwords (Construct.entries stem n body).2 rest hothers
    exact Construct.means_choice hc hbody hrest

end

end

/-! ## Templates -/

/-- **The code of a template means what the template means.** If the names with the stem and a
number are identifiers, and every piece of code in the nodes is a word that is none of these names,
then there is code for the nodes. Whatever the pieces of code do, running it from any state gives
the list of the trees of the nodes, of which the text is theirs, and the state after them. -/
theorem Template.run_compile (runtime : Code) (options : Options) (nodes : List Node)
    (hnames : ∀ n, Word.isPlain (Ident.numbered options.stem n).name.toList = true)
    (hcodes : ∀ c ∈ Node.allCodes nodes, IsAtom options.stem c) :
    ∃ code, Template.compile runtime options nodes = .ok code ∧
      ∀ (σ ι : Type) (atoms : Atoms σ ι) (s : σ),
        Emitted.expr runtime atoms .empty s code =
            some (.list (atoms.nodes nodes s).1, (atoms.nodes nodes s).2) ∧
          (Tree.list (atoms.nodes nodes s).1).flatten =
            String.join ((atoms.nodes nodes s).1.map Tree.flatten) := by
  have hwords : Ident.AreWords options.stem := by
    intro n
    exact Ident.toToken_of_isPlain (hnames n)
  have hmeans : ∀ (σ ι : Type) (atoms : Atoms σ ι),
      (Construct.ofNodes nodes options).Means runtime atoms options.stem fun s =>
        (.list (atoms.nodes nodes s).1, (atoms.nodes nodes s).2) := by
    intro σ ι atoms
    obtain ⟨cs, hcs⟩ : ∃ cs, Computes runtime atoms options.stem
        (Construct.entries options.stem 0 nodes).1 cs (atoms.nodes nodes) :=
      computes_entries hwords 0 nodes hcodes
    rw [Construct.ofNodes_eq_ofEntries]
    exact hcs.means (Construct.numbered_entries options.stem 0 nodes) hwords
  -- The code does not depend on what the pieces of code do, so that any atoms give it.
  obtain ⟨code, hcode, -⟩ := hmeans Unit Unit default
  refine ⟨[.group .brace code], hcode, ?_⟩
  intro σ ι atoms s
  refine ⟨?_, Tree.flatten_list _⟩
  obtain ⟨code', hcode', hrun⟩ := hmeans σ ι atoms
  obtain rfl : code = code' := by
    rw [hcode] at hcode'
    cases hcode'
    rfl
  rw [Emitted.expr_block]
  exact hrun .empty s (Env.generated_empty options.stem)

/-! ## A template -/

/-- A word that begins with another character than the stem is an atom. -/
theorem isAtom_word {stem a : String} {c d : Char} {s t : List Char} (hstem : stem.toList = c :: s)
    (ha : a.toList = d :: t) (hne : d ≠ c) : IsAtom stem [.word a] := by
  refine ⟨a, rfl, fun n hn => hne ?_⟩
  have h := congrArg String.toList hn
  rw [ha, Ident.name_numbered, String.toList_append, hstem, List.cons_append] at h
  exact (List.cons.inj h).1

/-- Atoms that write down which of them are run. Conditions do not hold, and iterators have two
items. -/
def Atoms.recorder : Atoms (List Code) Nat where
  output c s := (.text "!", s ++ [c])
  effect c s := s ++ [c]
  condition c s := (false, s ++ [c])
  iterator c s := ([0, 1], s ++ [c])
  bind c _ s := s ++ [c]

/-- Remarks are dropped, and the loop is run twice. -/
def Node.sample : List Node :=
  [.text "x", .chunk (.other "#") [], .choice [.word "c"] [.text "y"] (.otherwise
    [.loop [.word "p"] [.word "i"] [.chunk .output [.word "b"], .chunk .effect [.word "e"]]])]

/-- The code of the sample runs every piece of code in its order. -/
theorem Template.run_compile_sample :
    (∀ n, Word.isPlain (Ident.numbered Options.standard.stem n).name.toList = true) ∧
      (∀ c ∈ Node.allCodes Node.sample, IsAtom Options.standard.stem c) ∧
      ∃ code, Template.compile Emit.defaultRuntime .standard Node.sample = .ok code ∧
        Emitted.expr Emit.defaultRuntime Atoms.recorder .empty [] code =
          some (.list [.text "x", .list [.list [.list [.text "!"], .list [.text "!"]]]],
            [[.word "c"], [.word "i"], [.word "p"], [.word "b"], [.word "e"], [.word "p"],
              [.word "b"], [.word "e"]]) := by
  have hnames : ∀ n, Word.isPlain (Ident.numbered Options.standard.stem n).name.toList = true :=
    Ident.isPlain_numbered (by decide +kernel)
  have hcodes : ∀ c ∈ Node.allCodes Node.sample, IsAtom Options.standard.stem c := by
    have hatom (a : String) (d : Char) (t : List Char) (ha : a.toList = d :: t) (hne : d ≠ 'a') :
        IsAtom Options.standard.stem [.word a] := isAtom_word (s := ['r', 'g']) rfl ha hne
    have hlist : Node.allCodes Node.sample =
        [[.word "c"], [.word "p"], [.word "i"], [.word "b"], [.word "e"]] := rfl
    intro c hc
    rw [hlist] at hc
    simp only [List.mem_cons, List.not_mem_nil, or_false] at hc
    rcases hc with rfl | rfl | rfl | rfl | rfl
    · exact hatom "c" 'c' [] rfl (by decide)
    · exact hatom "p" 'p' [] rfl (by decide)
    · exact hatom "i" 'i' [] rfl (by decide)
    · exact hatom "b" 'b' [] rfl (by decide)
    · exact hatom "e" 'e' [] rfl (by decide)
  obtain ⟨code, hcode, hrun⟩ := Template.run_compile Emit.defaultRuntime .standard Node.sample
    hnames hcodes
  exact ⟨hnames, hcodes, code, hcode, (hrun _ _ Atoms.recorder []).1⟩

end TextTemplate
