import TextTemplate.Proofs.Expansion.Direct

/-!
# Names in code that was made

Code is made from a template only if the names in it are identifiers. Whether they are depends on
their stem; with a stem that makes none, only templates without names have code, and these have the
same code with every stem. So there is always a stem that makes identifiers.

- `isPlain_of_renderBlock`: the names of a block of which code was made.
- `entries_of_names_eq_nil`: nodes that take no name add the same with every stem.
- `Template.exists_stem_of_compile`, `Template.exists_direct_of_compile`: the code of a template was
  made with a stem that makes identifiers, and is read off its nodes.
-/

namespace TextTemplate

/-- The stem of the names in an expansion is an identifier. -/
theorem isPlain_arg : Word.isPlain "arg".toList = true := by decide +kernel

namespace Construct

variable {runtime code : Code} {stem : String}

/-- If code is made from a block, the names in it are identifiers. -/
theorem isPlain_of_renderBlock {es : List (Entry Construct)}
    (h : renderBlock runtime (Block.ofEntries es) = .ok code) :
    ∀ id ∈ Entry.names es, Word.isPlain id.name.toList = true := by
  rw [renderBlock] at h
  obtain ⟨statements, -, h⟩ := bind_eq_ok_iff.1 h
  intro id hid
  rw [← Block.references_ofEntries] at hid
  exact Block.isPlain_of_emit h id (List.mem_append_right _ hid)

/-- A node that takes no name adds the same with every stem. -/
theorem entry_of_names_eq_nil {n : Nat} {node : Node}
    (h : Entry.names (entry stem n node).1 = []) (stem' : String) (m : Nat) :
    entry stem' m node = ((entry stem n node).1, m) := by
  cases node with
  | text t => rfl
  | chunk marker c =>
    cases marker with
    | output => exact absurd h (List.cons_ne_nil _ _)
    | effect => rfl
    | other tag => rfl
  | choice condition body rest => exact absurd h (List.cons_ne_nil _ _)
  | loop pattern iterator body => exact absurd h (List.cons_ne_nil _ _)

/-- Nodes that take no name add the same with every stem. -/
theorem entries_of_names_eq_nil {n : Nat} {nodes : List Node}
    (h : Entry.names (entries stem n nodes).1 = []) (stem' : String) (m : Nat) :
    entries stem' m nodes = ((entries stem n nodes).1, m) := by
  induction nodes generalizing n m with
  | nil => rfl
  | cons node rest ih =>
    have hboth : Entry.names (entry stem n node).1 = [] ∧
        Entry.names (entries stem (entry stem n node).2 rest).1 = [] := by
      rw [entries, Entry.names_append] at h
      exact List.append_eq_nil_iff.1 h
    rw [entries, entry_of_names_eq_nil hboth.1 stem' m]
    dsimp only
    rw [ih hboth.2 m]
    rfl

end Construct

namespace Template

open Construct

variable {runtime code : Code} {options : Options} {nodes : List Node}

/-- If code is made although the stem makes no identifiers, there are no names. -/
theorem names_eq_nil_of_compile (h : compile runtime options nodes = .ok code)
    (hstem : Word.isPlain options.stem.toList = false) :
    Entry.names (entries options.stem 0 nodes).1 = [] := by
  rw [compile, ofNodes_eq_ofEntries] at h
  -- A name would have the stem, but it would be an identifier.
  refine List.eq_nil_iff_forall_not_mem.2 fun id hid => ?_
  have hplain := isPlain_of_renderBlock h id hid
  obtain ⟨k, -, -, rfl⟩ := (numbered_entries options.stem 0 nodes).exists_number id hid
  rw [Ident.isPlain_of_numbered hplain] at hstem
  cases hstem

/-- Code that is made from a template is also made with a stem that makes identifiers. -/
theorem exists_stem_of_compile (h : compile runtime options nodes = .ok code) :
    ∃ options' : Options, Word.isPlain options'.stem.toList = true ∧
      compile runtime options' nodes = .ok code := by
  cases hstem : Word.isPlain options.stem.toList with
  | true => exact ⟨options, hstem, h⟩
  | false =>
    have hnames := names_eq_nil_of_compile h hstem
    refine ⟨.standard, isPlain_arg, ?_⟩
    rw [compile, ofNodes_eq_ofEntries] at h
    rw [compile, ofNodes_eq_ofEntries, entries_of_names_eq_nil hnames]
    exact h

/-- The code of a template is read off its nodes. -/
theorem exists_direct_of_compile (h : compile runtime options nodes = .ok code) :
    ∃ stem : String, Word.isPlain stem.toList = true ∧
      code = Emit.block runtime (Node.directAll runtime stem 0 nodes) := by
  obtain ⟨options', hstem, hcode⟩ := exists_stem_of_compile h
  rw [compile_eq_direct runtime options' nodes (Ident.isPlain_numbered hstem)] at hcode
  exact ⟨options'.stem, hstem, (Except.ok.inj hcode).symm⟩

end Template

end TextTemplate
