import Mathlib.Data.List.Forall2
import TextTemplate.Proofs.Expansion.Entries
import TextTemplate.Proofs.Program.Written

/-!
# The code of a template, straight from its nodes

If all names are identifiers, the code of a template is a function of its nodes. Names are counted
through: the number of a name is the number of names that come before it.

- `Node.nameCount`: how many names a node takes.
- `Node.direct`, `Node.directAll`, `Alternative.direct`: the code that nodes add to a block, given
  the number of the first name.
- `Entry.Renders`, `renderBlock_ofEntries`: a block is made code part by part.
- `Template.compile_eq_direct`: the code of a template is the block of what its nodes add.
-/

namespace TextTemplate

/-! ## Counting names -/

mutual

/-- The number of names that a node takes: one for an output and for a choice, two for a loop, and
those of the nodes in it. -/
def Node.nameCount : Node → Nat
  | .text _ => 0
  | .chunk .output _ => 1
  | .chunk .effect _ | .chunk (.other _) _ => 0
  | .choice _ body rest => Node.nameCountAll body + rest.nameCount + 1
  | .loop _ _ body => Node.nameCountAll body + 2

/-- The number of names that nodes take. -/
def Node.nameCountAll : List Node → Nat
  | [] => 0
  | n :: rest => n.nameCount + Node.nameCountAll rest

/-- The number of names that what is left of a choice takes. -/
def Alternative.nameCount : Alternative → Nat
  | .nothing => 0
  | .otherwise body => Node.nameCountAll body
  | .elseIf _ body rest => Node.nameCountAll body + rest.nameCount

end

namespace Construct

mutual

theorem snd_entry (stem : String) (n : Nat) (node : Node) :
    (entry stem n node).2 = n + node.nameCount := by
  match node with
  | .text t => rfl
  | .chunk .output c => rfl
  | .chunk .effect c => rfl
  | .chunk (.other tag) c => rfl
  | .choice condition body rest =>
    show (ofAlternative stem (entries stem n body).2 rest).2 + 1 = _
    rw [snd_ofAlternative, snd_entries, Node.nameCount]
    omega
  | .loop pattern iterator body =>
    show (entries stem (n + 1) body).2 + 1 = _
    rw [snd_entries, Node.nameCount]
    omega

theorem snd_entries (stem : String) (n : Nat) (nodes : List Node) :
    (entries stem n nodes).2 = n + Node.nameCountAll nodes := by
  match nodes with
  | [] => rfl
  | node :: rest =>
    show (entries stem (entry stem n node).2 rest).2 = _
    rw [snd_entries, snd_entry, Node.nameCountAll, Nat.add_assoc]

theorem snd_ofAlternative (stem : String) (n : Nat) (rest : Alternative) :
    (ofAlternative stem n rest).2 = n + rest.nameCount := by
  match rest with
  | .nothing => rfl
  | .otherwise body => exact snd_entries stem n body
  | .elseIf condition body rest =>
    show (ofAlternative stem (entries stem n body).2 rest).2 = _
    rw [snd_ofAlternative, snd_entries, Alternative.nameCount, Nat.add_assoc]

end

end Construct

/-! ## Code from nodes -/

/-- The code of a block of entries. -/
def Emit.block (runtime : Code) (entries : List (Entry Code)) : Code :=
  [.group .brace ((Block.ofEntries entries).code runtime)]

section

variable (runtime : Code) (stem : String)

mutual

/-- What a node adds to a block, if `n` names come before. -/
def Node.direct (n : Nat) : Node → List (Entry Code)
  | .text t => [.text t]
  | .chunk .output c => [.value (.numbered stem n) c]
  | .chunk .effect c => [.effect c]
  | .chunk (.other tag) c => if isComment tag then [] else [.effect c]
  | .choice condition body rest =>
    [.value (.numbered stem (n + Node.nameCountAll body + rest.nameCount))
      (Construct.emitChoice condition (Emit.block runtime (Node.directAll n body))
        (rest.direct (n + Node.nameCountAll body)))]
  | .loop pattern iterator body =>
    [.value (.numbered stem (n + 1 + Node.nameCountAll body))
      (Construct.emitLoop runtime (.word (Ident.numbered stem n).name) pattern iterator
        (Emit.block runtime (Node.directAll (n + 1) body)))]

/-- What nodes add to a block, if `n` names come before. -/
def Node.directAll (n : Nat) : List Node → List (Entry Code)
  | [] => []
  | node :: rest => node.direct n ++ Node.directAll (n + node.nameCount) rest

/-- The code of what is left of a choice, if `n` names come before. -/
def Alternative.direct (n : Nat) : Alternative → Code
  | .nothing => Construct.emitEmpty runtime
  | .otherwise body => Emit.block runtime (Node.directAll n body)
  | .elseIf condition body rest =>
    Construct.emitChoice condition (Emit.block runtime (Node.directAll n body))
      (rest.direct (n + Node.nameCountAll body))

end

end

/-! ## Blocks part by part -/

/-- An entry of which the expression is made code. -/
inductive Entry.Renders (runtime : Code) : Entry Construct → Entry Code → Prop
  | text (t : String) : Renders runtime (.text t) (.text t)
  | value (id : Ident) {e : Construct} {c : Code} (h : e.render runtime = .ok c) :
    Renders runtime (.value id e) (.value id c)
  | effect {e : Construct} {c : Code} (h : e.render runtime = .ok c) :
    Renders runtime (.effect e) (.effect c)

namespace Construct

section

variable {runtime : Code} {es : List (Entry Construct)} {cs : List (Entry Code)}

theorem names_of_renders (h : List.Forall₂ (Entry.Renders runtime) es cs) :
    Entry.names cs = Entry.names es := by
  induction h with
  | nil => rfl
  | cons hx _ ih =>
    cases hx with
    | text t => exact ih
    | value id _ => exact congrArg (id :: ·) ih
    | effect _ => exact ih

theorem fragments_of_renders (h : List.Forall₂ (Entry.Renders runtime) es cs) :
    (Block.ofEntries cs).fragments = (Block.ofEntries es).fragments := by
  induction h with
  | nil => rfl
  | cons hx _ ih =>
    cases hx with
    | text t => exact congrArg (Fragment.text t :: ·) ih
    | value id _ => exact congrArg (Fragment.ref id :: ·) ih
    | effect _ => exact ih

theorem renderStatements_of_renders (h : List.Forall₂ (Entry.Renders runtime) es cs) :
    renderStatements runtime (Block.ofEntries es).statements =
      .ok (Block.ofEntries cs).statements := by
  induction h with
  | nil => rfl
  | cons hx _ ih =>
    cases hx with
    | text t => exact ih
    | value id hc =>
      rw [Block.statements_ofEntries_value, renderStatements, renderStatement, hc, ih]
      rfl
    | effect hc =>
      rw [Block.statements_ofEntries_effect, renderStatements, renderStatement, hc, ih]
      rfl

/-- A block is made code if its expressions and its names are. -/
theorem renderBlock_ofEntries (h : List.Forall₂ (Entry.Renders runtime) es cs)
    (hnames : ∀ id ∈ Entry.names es, id.toToken = .ok (.word id.name)) :
    renderBlock runtime (Block.ofEntries es) = .ok (Emit.block runtime cs) := by
  rw [renderBlock, renderStatements_of_renders h, ← fragments_of_renders h]
  refine Block.emit_eq_code runtime (Block.ofEntries cs) ?_
  intro id hid
  rw [Block.bindings_ofEntries, Block.references_ofEntries, List.mem_append, or_self,
    names_of_renders h] at hid
  exact hnames id hid

end

/-! ## Nodes -/

variable {stem : String}

/-- The block of some nodes is made code if what they add to it is. -/
theorem renderBlock_entries
    (hwords : ∀ n, (Ident.numbered stem n).toToken = .ok (.word (Ident.numbered stem n).name))
    {runtime : Code} (n : Nat) (nodes : List Node)
    (h : List.Forall₂ (Entry.Renders runtime) (entries stem n nodes).1
      (Node.directAll runtime stem n nodes)) :
    renderBlock runtime (Block.ofEntries (entries stem n nodes).1) =
      .ok (Emit.block runtime (Node.directAll runtime stem n nodes)) := by
  refine renderBlock_ofEntries h fun id hid => ?_
  obtain ⟨k, -, -, rfl⟩ := (numbered_entries stem n nodes).exists_number id hid
  exact hwords k

mutual

theorem renders_entry
    (hwords : ∀ n, (Ident.numbered stem n).toToken = .ok (.word (Ident.numbered stem n).name))
    (runtime : Code) (n : Nat) (node : Node) :
    List.Forall₂ (Entry.Renders runtime) (entry stem n node).1 (node.direct runtime stem n) := by
  match node with
  | .text t => exact .cons (.text t) .nil
  | .chunk .output c => exact .cons (.value _ (by rw [render])) .nil
  | .chunk .effect c => exact .cons (.effect (by rw [render])) .nil
  | .chunk (.other tag) c =>
    rw [entry, Node.direct]
    split
    · exact .nil
    · exact .cons (.effect (by rw [render])) .nil
  | .choice condition body rest =>
    have hbody := renderBlock_entries hwords n body (renders_entries hwords runtime n body)
    have hrest := render_ofAlternative hwords runtime (n + Node.nameCountAll body) rest
    have hcode : render runtime (choice condition (Block.ofEntries (entries stem n body).1)
        (ofAlternative stem (n + Node.nameCountAll body) rest).1) =
          .ok (emitChoice condition (Emit.block runtime (Node.directAll runtime stem n body))
            (rest.direct runtime stem (n + Node.nameCountAll body))) := by
      rw [render, hbody, hrest]
      rfl
    rw [entry]
    dsimp only
    rw [snd_entries, snd_ofAlternative, Node.direct]
    exact .cons (.value _ hcode) .nil
  | .loop pattern iterator body =>
    have hbody := renderBlock_entries hwords (n + 1) body
      (renders_entries hwords runtime (n + 1) body)
    have hcode : render runtime (loop (.numbered stem n) pattern iterator
        (Block.ofEntries (entries stem (n + 1) body).1)) =
          .ok (emitLoop runtime (.word (Ident.numbered stem n).name) pattern iterator
            (Emit.block runtime (Node.directAll runtime stem (n + 1) body))) := by
      rw [render, hwords n, hbody]
      rfl
    rw [entry]
    dsimp only
    rw [snd_entries, Node.direct]
    exact .cons (.value _ hcode) .nil

/-- What nodes add to a block is made the code that is read off them. -/
theorem renders_entries
    (hwords : ∀ n, (Ident.numbered stem n).toToken = .ok (.word (Ident.numbered stem n).name))
    (runtime : Code) (n : Nat) (nodes : List Node) :
    List.Forall₂ (Entry.Renders runtime) (entries stem n nodes).1
      (Node.directAll runtime stem n nodes) := by
  match nodes with
  | [] => exact .nil
  | node :: rest =>
    have hrest := renders_entries hwords runtime (n + node.nameCount) rest
    rw [entries]
    dsimp only
    rw [snd_entry, Node.directAll]
    exact List.rel_append (renders_entry hwords runtime n node) hrest

theorem render_ofAlternative
    (hwords : ∀ n, (Ident.numbered stem n).toToken = .ok (.word (Ident.numbered stem n).name))
    (runtime : Code) (n : Nat) (rest : Alternative) :
    render runtime (ofAlternative stem n rest).1 = .ok (rest.direct runtime stem n) := by
  match rest with
  | .nothing => rw [ofAlternative, render, Alternative.direct]
  | .otherwise body =>
    rw [ofAlternative, render, Alternative.direct]
    exact renderBlock_entries hwords n body (renders_entries hwords runtime n body)
  | .elseIf condition body rest =>
    have hbody := renderBlock_entries hwords n body (renders_entries hwords runtime n body)
    have hrest := render_ofAlternative hwords runtime (n + Node.nameCountAll body) rest
    rw [ofAlternative]
    dsimp only
    rw [snd_entries, render, hbody, hrest, Alternative.direct]
    rfl

end

end Construct

/-- If the names with the stem and a number are identifiers, the code of a template is the block of
what its nodes add. -/
theorem Template.compile_eq_direct (runtime : Code) (options : Options) (nodes : List Node)
    (hnames : ∀ n, Word.isPlain (Ident.numbered options.stem n).name.toList = true) :
    compile runtime options nodes =
      .ok (Emit.block runtime (Node.directAll runtime options.stem 0 nodes)) := by
  have hwords : ∀ n, (Ident.numbered options.stem n).toToken =
      .ok (.word (Ident.numbered options.stem n).name) :=
    fun n => Ident.toToken_of_isPlain (hnames n)
  rw [compile, Construct.ofNodes_eq_ofEntries]
  exact Construct.renderBlock_entries hwords 0 nodes
    (Construct.renders_entries hwords runtime 0 nodes)

end TextTemplate
