import TextTemplate.Program.Execute
import TextTemplate.Proofs.Expansion.Reading
import TextTemplate.Template.Node

/-!
# What a template means, and what its code means

The pieces of code in a template may do anything to a state. Given what they do, a template has a
meaning, node by node, and so has every piece of code in the forms that a template becomes.

- `Atoms`: what pieces of code do.
- `Atoms.nodes`: the trees of nodes, from left to right.
- `Emitted.expr`, `Emitted.block`: code run as it is read; nothing else is known about it.
- `expr_…`, `block_…`: the rules by which code is run, form by form.
-/

namespace TextTemplate

/-- What pieces of code do, each of them to a state. -/
structure Atoms (σ ι : Type) where
  /-- The tree of an expression in the text. -/
  output : Code → σ → Tree × σ
  /-- The effect of code that is no part of the text. -/
  effect : Code → σ → σ
  /-- Whether a condition holds. -/
  condition : Code → σ → Bool × σ
  /-- The items of an iterator. -/
  iterator : Code → σ → List ι × σ
  /-- The effect of binding a pattern to an item. -/
  bind : Code → ι → σ → σ

namespace Atoms

variable {σ ι : Type}

/-- Pieces of code that do nothing. -/
instance : Inhabited (Atoms σ ι) where
  default :=
    { output := fun _ s => (.empty, s)
      effect := fun _ s => s
      condition := fun _ s => (false, s)
      iterator := fun _ s => ([], s)
      bind := fun _ _ s => s }

/-! ## Templates -/

/-- The trees that are made for each item, in order. -/
def each (f : ι → σ → Tree × σ) : List ι → σ → List Tree × σ
  | [], s => ([], s)
  | x :: rest, s =>
    let (t, s) := f x s
    let (trees, s) := each f rest s
    (t :: trees, s)

variable (atoms : Atoms σ ι)

mutual

/-- The trees of a node. A choice and a loop make one tree each. -/
def node : Node → σ → List Tree × σ
  | .text t, s => ([.text t], s)
  | .chunk .output c, s =>
    let (t, s) := atoms.output c s
    ([t], s)
  | .chunk .effect c, s => ([], atoms.effect c s)
  | .chunk (.other tag) c, s => ([], if isComment tag then s else atoms.effect c s)
  | .choice condition body rest, s =>
    let (holds, s) := atoms.condition condition s
    if holds then
      let (trees, s) := nodes body s
      ([.list trees], s)
    else
      let (t, s) := alternative rest s
      ([t], s)
  | .loop pattern iterator body, s =>
    let (items, s) := atoms.iterator iterator s
    let (trees, s) := each (fun x s =>
      let (trees, s) := nodes body (atoms.bind pattern x s)
      (.list trees, s)) items s
    ([.list trees], s)

/-- The trees of nodes, from left to right. -/
def nodes : List Node → σ → List Tree × σ
  | [], s => ([], s)
  | n :: rest, s =>
    let (front, s) := node n s
    let (back, s) := nodes rest s
    (front ++ back, s)

/-- The tree of what is left of a choice. -/
def alternative : Alternative → σ → Tree × σ
  | .nothing, s => (.empty, s)
  | .otherwise body, s =>
    let (trees, s) := nodes body s
    (.list trees, s)
  | .elseIf condition body rest, s =>
    let (holds, s) := atoms.condition condition s
    if holds then
      let (trees, s) := nodes body s
      (.list trees, s)
    else alternative rest s

end

end Atoms

namespace Emitted

open Emit

variable {σ ι : Type}

/-! ## Code -/

/-- A word that is not the name of a value is an atom. -/
def atom? (env : Env) : Code → Option Code
  | [.word a] => if (env.get? ⟨a⟩).isNone then some [.word a] else none
  | _ => none

/-- The tree of an item in a list. -/
def leaf? (env : Env) : Fragment → Option Tree
  | .text s => some (.text s)
  | .ref id => env.get? id

/-- The tree at the end of a block. -/
def Final.tree? (env : Env) : Final → Option Tree
  | items fragments => (fragments.mapM (leaf? env)).map .list
  | collected id =>
    match env.get? id with
    | some (.list trees) => some (.list trees)
    | _ => none
  | empty => some .empty

/-- Trees added to a list for each item, in order. -/
def push (f : List Tree → ι → σ → Option (Tree × σ)) :
    List Tree → List ι → σ → Option (List Tree × σ)
  | trees, [], s => some (trees, s)
  | trees, x :: rest, s => do
    let (t, s) ← f trees x s
    push f (trees ++ [t]) rest s

variable (runtime : Code) (atoms : Atoms σ ι)

mutual

/-- Runs an expression for its tree. -/
def expr (env : Env) (s : σ) (code : Code) : Option (Tree × σ) :=
  match _h : Form.read code with
  | .block body => block env s body
  | .choice condition body otherwise => do
    let c ← atom? env condition
    let (holds, s) := atoms.condition c s
    if holds then block env s body else expr env s otherwise
  | .atom c => do
    let c ← atom? env c
    return atoms.output c s
termination_by (code.size, 0)
decreasing_by all_goals exact .left _ _ (Form.size_of_mem_parts (by simp [_h, Form.parts]))

/-- Runs the inside of a block: its statements in order, then the expression at its end. -/
def block (env : Env) (s : σ) (code : Code) : Option (Tree × σ) :=
  match Final.read? runtime code with
  | some final => do
    let t ← final.tree? env
    return (t, s)
  | none =>
    match _h : Step.read? runtime code with
    | none => none
    | some (step, rest) => do
      let (env, s) ← statement env s step
      block env s rest
termination_by (code.size, 0)
decreasing_by
  · exact .left _ _ (Step.size_of_read? _h).2
  · exact .left _ _ (Step.size_of_read? _h).1

/-- Runs a statement for the names and the state after it. -/
def statement (env : Env) (s : σ) (step : Step) : Option (Env × σ) :=
  match step with
  | .bind id e => do
    let (t, s) ← expr env s e
    return (env.bind id t, s)
  | .list id => some (env.bind id (.list []), s)
  | .each pattern iterator id body => do
    let p ← atom? env pattern
    let i ← atom? env iterator
    match env.get? id with
    | some (.list trees) => do
      let (items, s) := atoms.iterator i s
      let (trees, s) ← push (fun trees x s =>
        expr (env.bind id (.list trees)) (atoms.bind p x s) body) trees items s
      return (env.bind id (.list trees), s)
    | _ => none
  | .effect c => do
    let c ← atom? env c
    return (env, atoms.effect c s)
termination_by (step.part.size, 1)

end

/-! ## Rules -/

variable {runtime : Code} {atoms : Atoms σ ι} {env : Env} {s : σ}

theorem atom?_word {a : String} (h : env.get? ⟨a⟩ = none) :
    atom? env [.word a] = some [.word a] := by
  rw [atom?, h]
  rfl

@[simp] theorem expr_block (body : Code) :
    expr runtime atoms env s [.group .brace body] = block runtime atoms env s body := by
  rw [expr]
  rfl

theorem expr_choice {c : String} (h : env.get? ⟨c⟩ = none) (body otherwise : Code) :
    expr runtime atoms env s (Construct.emitChoice [.word c] [.group .brace body] otherwise) =
      if (atoms.condition [.word c] s).1 then
        block runtime atoms env (atoms.condition [.word c] s).2 body
      else expr runtime atoms env (atoms.condition [.word c] s).2 otherwise := by
  rw [expr]
  show (atom? env [.word c] >>= fun c => _) = _
  rw [atom?_word h]
  rfl

theorem expr_atom {a : String} (h : env.get? ⟨a⟩ = none) :
    expr runtime atoms env s [.word a] = some (atoms.output [.word a] s) := by
  rw [expr]
  split
  · rename_i hread
    rw [Form.read_word] at hread
    cases hread
  · rename_i hread
    rw [Form.read_word] at hread
    cases hread
  · rename_i hread
    rw [Form.read_word] at hread
    cases hread
    rw [atom?_word h]
    rfl

/-- At the end of a block its tree is made. -/
theorem block_final {code : Code} {final : Final} (h : Final.read? runtime code = some final) :
    block runtime atoms env s code = (final.tree? env).map fun t => (t, s) := by
  rw [block, h]
  simp only [Option.bind_eq_bind, Option.pure_def, Option.map_eq_bind]
  rfl

/-- What comes before the end of a block is run first. -/
theorem block_step {code rest : Code} {step : Step} {env' : Env} {s' : σ}
    (h : Step.read? runtime code = some (step, rest)) (hrest : Final.width runtime ≤ rest.length)
    (hstep : statement runtime atoms env s step = some (env', s')) :
    block runtime atoms env s code = block runtime atoms env' s' rest := by
  rw [block, Final.read?_eq_none (Nat.lt_of_le_of_lt hrest (Step.length_of_read? h))]
  dsimp only
  split
  · rename_i hnone
    rw [h] at hnone
    cases hnone
  · rename_i hsome
    rw [h] at hsome
    cases hsome
    rw [hstep]
    rfl

theorem statement_bind (id : Ident) (e : Code) :
    statement runtime atoms env s (.bind id e) =
      (expr runtime atoms env s e).map fun (t, s) => (env.bind id t, s) := by
  rw [statement]
  simp only [Option.bind_eq_bind, Option.pure_def, Option.map_eq_bind]
  rfl

theorem statement_effect {a : String} (h : env.get? ⟨a⟩ = none) :
    statement runtime atoms env s (.effect [.word a]) =
      some (env, atoms.effect [.word a] s) := by
  rw [statement, atom?_word h]
  rfl

/-- If every item makes a tree, the trees are added in the order of the items. -/
theorem push_eq_each {f : List Tree → ι → σ → Option (Tree × σ)} {g : ι → σ → Tree × σ}
    (h : ∀ trees x s, f trees x s = some (g x s)) (trees : List Tree) (items : List ι) (s : σ) :
    push f trees items s =
      some (trees ++ (Atoms.each g items s).1, (Atoms.each g items s).2) := by
  induction items generalizing trees s with
  | nil => rw [push, Atoms.each, List.append_nil]
  | cons x rest ih =>
    rw [push, h, Option.bind_eq_bind, Option.bind_some]
    show push f (trees ++ [(g x s).1]) rest (g x s).2 = _
    rw [ih, List.append_assoc]
    rfl

theorem statement_each {id : Ident} {p i : String} {trees : List Tree} {body : Code}
    {g : ι → σ → Tree × σ} (hid : env.get? id = some (.list trees)) (hp : env.get? ⟨p⟩ = none)
    (hi : env.get? ⟨i⟩ = none) (hbody : ∀ trees x s,
      expr runtime atoms (env.bind id (.list trees)) (atoms.bind [.word p] x s) body =
        some (g x s)) :
    statement runtime atoms env s (.each [.word p] [.word i] id body) =
      some (env.bind id (.list (trees ++
          (Atoms.each g (atoms.iterator [.word i] s).1 (atoms.iterator [.word i] s).2).1)),
        (Atoms.each g (atoms.iterator [.word i] s).1 (atoms.iterator [.word i] s).2).2) := by
  rw [statement, atom?_word hp, atom?_word hi, hid]
  show (push _ trees (atoms.iterator [.word i] s).1 (atoms.iterator [.word i] s).2).bind _ = _
  rw [push_eq_each hbody]
  rfl

/-- A loop makes the list of the trees of its body. -/
theorem expr_loop {acc p i : String} {body : Code} {g : ι → σ → Tree × σ}
    (hp : (env.bind ⟨acc⟩ (.list [])).get? ⟨p⟩ = none)
    (hi : (env.bind ⟨acc⟩ (.list [])).get? ⟨i⟩ = none)
    (hbody : ∀ trees x s, expr runtime atoms ((env.bind ⟨acc⟩ (.list [])).bind ⟨acc⟩ (.list trees))
      (atoms.bind [.word p] x s) body = some (g x s)) :
    expr runtime atoms env s
        (Construct.emitLoop runtime (.word acc) [.word p] [.word i] body) =
      some (.list (Atoms.each g (atoms.iterator [.word i] s).1 (atoms.iterator [.word i] s).2).1,
        (Atoms.each g (atoms.iterator [.word i] s).1 (atoms.iterator [.word i] s).2).2) := by
  have hcode : Construct.emitLoop runtime (.word acc) [.word p] [.word i] body =
      [.group .brace (.word "let" :: .word "mut" :: .word acc :: Step.newList ++
        (.word "for" :: .word p :: .word "in" :: .word i :: .group .brace
            (.word acc :: mark '.' ++ call [.word "push"] body ++ mark ';') ::
          call (path runtime ["FragmentTree", "List"]) [.word acc]))] := by
    simp [Construct.emitLoop, Step.newList]
  have hend := Nat.le_of_eq (Final.length_call runtime "FragmentTree" "List" [.word acc]).symm
  have hlist : statement runtime atoms env s (.list ⟨acc⟩) =
      some (env.bind ⟨acc⟩ (.list []), s) := by
    rw [statement]
  have heach := statement_each (s := s) (Env.get?_bind_self env ⟨acc⟩ (.list [])) hp hi hbody
  rw [hcode, expr_block, block_step (Step.read?_newList _ _ _) _ hlist,
    block_step (Step.read?_each _ _ _ _ _ _) hend heach,
    block_final (Final.read?_collected runtime acc), Final.tree?, Env.get?_bind_self]
  · rfl
  · rw [List.length_cons, List.length_cons, List.length_cons, List.length_cons, List.length_cons]
    omega

end Emitted

end TextTemplate
