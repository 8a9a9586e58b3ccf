import TextTemplate.Proofs.Expansion.Additions
import TextTemplate.Proofs.Expansion.Arguments
import TextTemplate.Proofs.Expansion.Naming

/-!
# When no code is made

Names are looked at in many places while code is made, but only a name that is no identifier is ever
refused. A compilation makes names of one stem, and either all of them are identifiers or none is.

- `Ident.exists_token_iff`, `Block.exists_code_iff`: names that are words, and blocks of such names.
- `Ident.isPlain_numbered_eq`: the number in a name makes no difference.
- `Construct.identsBlock`, `Construct.exists_renderBlock_iff`: names at every depth.
- `Node.takesName`, `Node.nameCountAll_eq_zero_iff`: templates in which there are names.
- `Template.exists_code_iff`: templates of which code is made.
- `exists_error_iff_of_names`: the main statement.
-/

namespace TextTemplate

/-! ## Names -/

namespace Ident

/-- A name is a word of code exactly if it is an identifier. -/
theorem exists_token_iff (id : Ident) :
    (∃ t, id.toToken = .ok t) ↔ Word.isPlain id.name.toList = true :=
  ⟨fun ⟨_, h⟩ => isPlain_of_toToken h, fun h => ⟨_, toToken_of_isPlain h⟩⟩

/-- Whether a name is an identifier does not depend on its number. -/
theorem isPlain_numbered_eq (stem : String) (n : Nat) :
    Word.isPlain (numbered stem n).name.toList = Word.isPlain stem.toList :=
  Bool.eq_iff_iff.2 ⟨isPlain_of_numbered, fun h => isPlain_numbered h n⟩

end Ident

/-- Code is made of a block exactly if all names in it are identifiers. -/
theorem Block.exists_code_iff (runtime : Code) (b : Block Code) :
    (∃ code, b.emit runtime = .ok code) ↔
      ∀ id ∈ b.bindings ++ b.references, Word.isPlain id.name.toList = true := by
  constructor
  · rintro ⟨code, h⟩
    exact b.isPlain_of_emit h
  · intro h
    exact ⟨_, b.emit_eq_code runtime fun id hid => Ident.toToken_of_isPlain (h id hid)⟩

/-! ## Blocks with control in them -/

namespace Construct

mutual

/-- The names in an expression, at every depth. -/
def idents : Construct → List Ident
  | code _ | empty => []
  | block body => identsBlock body
  | choice _ body otherwise => identsBlock body ++ idents otherwise
  | loop accumulator _ _ body => accumulator :: identsBlock body

/-- The names in a block: those in its expressions, and those that it binds and mentions. -/
def identsBlock : Block Construct → List Ident
  | ⟨statements, fragments⟩ =>
    identsStatements statements ++
      (statements.filterMap Statement.binding? ++ fragments.filterMap Fragment.reference?)

/-- The names in the expressions of statements. -/
def identsStatements : List (Statement Construct) → List Ident
  | [] => []
  | s :: rest => identsStatement s ++ identsStatements rest

/-- The names in the expression of a statement. -/
def identsStatement : Statement Construct → List Ident
  | .bind _ e | .effect e => idents e

end

/-- A statement made code binds the same name. -/
theorem binding?_of_renderStatement {runtime : Code} {s : Statement Construct} {c : Statement Code}
    (h : renderStatement runtime s = .ok c) : c.binding? = s.binding? := by
  cases s with
  | bind id e =>
    obtain ⟨code, -, hc⟩ := bind_eq_ok_iff.1 h
    cases hc
    rfl
  | effect e =>
    obtain ⟨code, -, hc⟩ := bind_eq_ok_iff.1 h
    cases hc
    rfl

/-- Statements made code bind the same names. -/
theorem bindings_of_renderStatements {runtime : Code} {ss : List (Statement Construct)}
    {cs : List (Statement Code)} (h : renderStatements runtime ss = .ok cs) :
    cs.filterMap Statement.binding? = ss.filterMap Statement.binding? := by
  induction ss generalizing cs with
  | nil =>
    cases h
    rfl
  | cons s rest ih =>
    obtain ⟨c, hc, h⟩ := bind_eq_ok_iff.1 h
    obtain ⟨cs, hcs, h⟩ := bind_eq_ok_iff.1 h
    cases h
    simp only [List.filterMap_cons, binding?_of_renderStatement hc, ih hcs]

mutual

/-- Code is made of an expression exactly if all names in it are identifiers, at every depth. -/
theorem exists_render_iff (runtime : Code) (e : Construct) :
    (∃ code, render runtime e = .ok code) ↔
      ∀ id ∈ idents e, Word.isPlain id.name.toList = true := by
  match e with
  | .code _ | .empty => simp [render, idents]
  | .block body =>
    rw [render, idents]
    exact exists_renderBlock_iff runtime body
  | .choice condition body otherwise =>
    rw [idents, List.forall_mem_append, ← exists_renderBlock_iff runtime body,
      ← exists_render_iff runtime otherwise, render]
    simp only [exists_bind_iff, exists_pure, and_true, exists_and_right]
  | .loop accumulator pattern iterator body =>
    rw [idents, List.forall_mem_cons, ← Ident.exists_token_iff,
      ← exists_renderBlock_iff runtime body, render]
    simp only [exists_bind_iff, exists_pure, and_true, exists_and_right]

/-- Code is made of a block exactly if all names in it are identifiers, at every depth. -/
theorem exists_renderBlock_iff (runtime : Code) (b : Block Construct) :
    (∃ code, renderBlock runtime b = .ok code) ↔
      ∀ id ∈ identsBlock b, Word.isPlain id.name.toList = true := by
  match b with
  | ⟨statements, fragments⟩ =>
    rw [identsBlock, List.forall_mem_append, ← exists_renderStatements_iff runtime statements,
      renderBlock, exists_bind_iff]
    constructor
    · rintro ⟨cs, hcs, hcode⟩
      rw [← bindings_of_renderStatements hcs]
      exact ⟨⟨cs, hcs⟩, (Block.exists_code_iff runtime ⟨cs, fragments⟩).1 hcode⟩
    · rintro ⟨⟨cs, hcs⟩, h⟩
      rw [← bindings_of_renderStatements hcs] at h
      exact ⟨cs, hcs, (Block.exists_code_iff runtime ⟨cs, fragments⟩).2 h⟩

theorem exists_renderStatements_iff (runtime : Code) (ss : List (Statement Construct)) :
    (∃ cs, renderStatements runtime ss = .ok cs) ↔
      ∀ id ∈ identsStatements ss, Word.isPlain id.name.toList = true := by
  match ss with
  | [] => simp [renderStatements, identsStatements]
  | s :: rest =>
    rw [identsStatements, List.forall_mem_append, ← exists_renderStatement_iff runtime s,
      ← exists_renderStatements_iff runtime rest, renderStatements]
    simp only [exists_bind_iff, exists_pure, and_true, exists_and_right]

theorem exists_renderStatement_iff (runtime : Code) (s : Statement Construct) :
    (∃ c, renderStatement runtime s = .ok c) ↔
      ∀ id ∈ identsStatement s, Word.isPlain id.name.toList = true := by
  match s with
  | .bind id e =>
    rw [identsStatement, ← exists_render_iff runtime e, renderStatement]
    simp only [exists_bind_iff, exists_pure, and_true]
  | .effect e =>
    rw [identsStatement, ← exists_render_iff runtime e, renderStatement]
    simp only [exists_bind_iff, exists_pure, and_true]

end

end Construct

/-! ## Templates with names -/

namespace Node

/-- Whether a node takes names for itself. -/
def takesName (n : Node) : Bool := n.isOutput || n.isChoice || n.isLoop

/-- No names are taken exactly if no node takes one, at any depth. -/
theorem nameCountAll_eq_zero_iff (nodes : List Node) :
    nameCountAll nodes = 0 ↔ ∀ n ∈ everywhere nodes, n.takesName = false := by
  rw [nameCountAll_eq, Nat.add_eq_zero_iff, Nat.add_eq_zero_iff, Nat.mul_eq_zero]
  simp only [List.countP_eq_zero, Bool.not_eq_true, takesName, Bool.or_eq_false_iff]
  constructor
  · rintro ⟨⟨houtput, hchoice⟩, htwo | hloop⟩ n hn
    · cases htwo
    · exact ⟨⟨houtput n hn, hchoice n hn⟩, hloop n hn⟩
  · intro h
    exact ⟨⟨fun n hn => (h n hn).1.1, fun n hn => (h n hn).1.2⟩, .inr fun n hn => (h n hn).2⟩

end Node

namespace Construct

/-- There is no name in a block exactly if its nodes take none. -/
theorem names_eq_nil_iff (stem : String) (n : Nat) (nodes : List Node) :
    Entry.names (entries stem n nodes).1 = [] ↔ Node.nameCountAll nodes = 0 := by
  constructor
  · intro h
    have hcount := snd_entries stem n nodes
    rw [entries_of_names_eq_nil h stem n] at hcount
    exact Nat.left_eq_add.1 hcount
  · intro h
    refine List.eq_nil_iff_forall_not_mem.2 fun id hid => ?_
    obtain ⟨k, hle, hlt, -⟩ := (numbered_entries stem n nodes).exists_number id hid
    rw [snd_entries, h] at hlt
    exact absurd hle (Nat.not_le.2 hlt)

end Construct

namespace Template

open Construct

variable (runtime : Code) (nodes : List Node)

/-- A stem that is an identifier has code for all nodes. -/
theorem exists_code_of_isPlain (options : Options) (h : Word.isPlain options.stem.toList = true) :
    ∃ code, compile runtime options nodes = .ok code :=
  ⟨_, compile_eq_direct runtime options nodes (Ident.isPlain_numbered h)⟩

/-- Code is made exactly if there are no names or the stem makes identifiers. -/
theorem exists_code_iff (options : Options) :
    (∃ code, compile runtime options nodes = .ok code) ↔
      Node.nameCountAll nodes = 0 ∨ Word.isPlain options.stem.toList = true := by
  constructor
  · rintro ⟨code, h⟩
    cases hstem : Word.isPlain options.stem.toList with
    | true => exact .inr rfl
    | false => exact .inl ((names_eq_nil_iff _ _ _).1 (names_eq_nil_of_compile h hstem))
  · rintro (hnames | hstem)
    · -- Without names, the code is that with any other stem.
      obtain ⟨code, hcode⟩ := exists_code_of_isPlain runtime nodes .standard isPlain_arg
      rw [compile, ofNodes_eq_ofEntries] at hcode
      refine ⟨code, ?_⟩
      rw [compile, ofNodes_eq_ofEntries,
        entries_of_names_eq_nil ((names_eq_nil_iff Options.standard.stem 0 nodes).2 hnames)]
      exact hcode
    · exact exists_code_of_isPlain runtime nodes options hstem

end Template

/-- The stem of an expansion is an identifier, so that names are no reason to refuse it. -/
theorem Invocation.expand_ne_identifier (tokens : List (Placed Token)) (cause : InvalidIdent) :
    expand tokens ≠ .error (.identifier cause) := by
  rw [expand]
  cases ofTokens tokens with
  | error f => exact nofun
  | ok i =>
    show i.compile ≠ _
    rw [compile]
    cases Template.parse i.value with
    | error f => exact nofun
    | ok nodes =>
      obtain ⟨code, hcode⟩ := Template.exists_code_of_isPlain Emit.defaultRuntime nodes
        { Options.standard with lineOffset := i.lineOffset.getD 0 } isPlain_arg
      dsimp only
      rw [hcode]
      exact nofun

/-- **Only names can be refused, and only for the sake of their stem.** No code is made of a block
exactly if it binds or mentions a name that is no identifier; if control stands in it, the blocks
inside count as well. Whether a name is an identifier does not depend on its number, so that of a
template no code is made exactly if it has an output, a choice or a loop at any depth and the stem is
empty or no identifier. With the stem of every expansion, all templates have code. -/
theorem exists_error_iff_of_names :
    (∀ (runtime : Code) (b : Block Code), (∃ e, b.emit runtime = .error e) ↔
      ∃ id ∈ b.bindings ++ b.references, Word.isPlain id.name.toList = false) ∧
    (∀ (runtime : Code) (b : Block Construct),
      (∃ e, Construct.renderBlock runtime b = .error e) ↔
        ∃ id ∈ Construct.identsBlock b, Word.isPlain id.name.toList = false) ∧
    (∀ stem n, (∃ e, (Ident.numbered stem n).toToken = .error e) ↔
      stem = "" ∨ Word.isPlain stem.toList = false) ∧
    (∀ (runtime : Code) (options : Options) (nodes : List Node),
      (∃ e, Template.compile runtime options nodes = .error e) ↔
        (∃ n ∈ Node.everywhere nodes, n.takesName = true) ∧
          (options.stem = "" ∨ Word.isPlain options.stem.toList = false)) ∧
    (∀ (runtime : Code) (lineOffset : Nat) (nodes : List Node),
      ∃ code, Template.compile runtime ⟨lineOffset, "arg"⟩ nodes = .ok code) ∧
    ∀ tokens cause, Invocation.expand tokens ≠ .error (.identifier cause) := by
  have hempty (stem : String) : (stem = "" ∨ Word.isPlain stem.toList = false) ↔
      Word.isPlain stem.toList = false := by
    refine or_iff_right_of_imp ?_
    rintro rfl
    rfl
  refine ⟨fun runtime b => ?_, fun runtime b => ?_, fun stem n => ?_,
    fun runtime options nodes => ?_, fun runtime lineOffset nodes => ?_, fun tokens cause h => ?_⟩
  · rw [exists_error_iff_not, b.exists_code_iff]
    simp only [not_forall, Bool.not_eq_true, exists_prop]
  · rw [exists_error_iff_not, Construct.exists_renderBlock_iff]
    simp only [not_forall, Bool.not_eq_true, exists_prop]
  · rw [exists_error_iff_not, Ident.exists_token_iff, Ident.isPlain_numbered_eq, hempty,
      Bool.not_eq_true]
  · rw [exists_error_iff_not, Template.exists_code_iff, Node.nameCountAll_eq_zero_iff, hempty]
    simp only [not_or, not_forall, Bool.not_eq_false, Bool.not_eq_true, exists_prop]
  · exact Template.exists_code_of_isPlain runtime nodes ⟨lineOffset, "arg"⟩ isPlain_arg
  · exact Invocation.expand_ne_identifier tokens cause h

end TextTemplate
