import TextTemplate.Proofs.Expansion.Scoping

/-!
# The order of the code in a template

The code of a template is an outline that has nothing to do with the code in its nodes, and the code
in its nodes, put into the outline in the order of the template.

- `Code.Fills`: a piece of code is an outline with other pieces put into it.
- `Fills.filter_words`: words that are not in the outline stand in their order.
- `Node.outline`, `Node.outlineAll`: nodes with nothing in the place of their code.
- `fills_steps`, `fills_alternative`: the code of nodes is their outline with their code.
- `Template.fills_compile`: so is the code of a template.
-/

namespace TextTemplate

namespace Code

/-! ## Filling in -/

/-- A piece of code is an outline, into which pieces were put at some places. They stand there in
their order, each of them once. -/
inductive Fills : Code → List Code → Code → Prop
  | nil : Fills [] [] []
  | token (t : Token) {a b : Code} {cs : List Code} (h : Fills a cs b) :
    Fills (t :: a) cs (t :: b)
  | group (d : Delimiter) {body body' a b : Code} {cs ds : List Code} (hbody : Fills body cs body')
    (h : Fills a ds b) : Fills (.group d body :: a) (cs ++ ds) (.group d body' :: b)
  | insert (c : Code) {a b : Code} {cs : List Code} (h : Fills a cs b) : Fills a (c :: cs) (c ++ b)

namespace Fills

variable {a b a' b' : Code} {cs ds : List Code}

/-- Where nothing is put in, the outline is the code. -/
theorem refl (a : Code) : Fills a [] a := by
  induction a with
  | nil => exact .nil
  | cons t a ih => exact .token t ih

theorem append (ha : Fills a cs b) (hb : Fills a' ds b') :
    Fills (a ++ a') (cs ++ ds) (b ++ b') := by
  induction ha with
  | nil => exact hb
  | token t _ ih => exact .token t ih
  | group d hbody _ _ ih =>
    rw [List.append_assoc]
    exact .group d hbody ih
  | insert c _ ih =>
    rw [List.append_assoc]
    exact .insert c ih

/-- A piece that is put into nothing. -/
theorem whole (c : Code) : Fills [] [c] c := by
  have := Fills.nil.insert c
  rwa [List.append_nil] at this

/-- The same code before both. -/
theorem append_left (front : Code) (h : Fills a cs b) : Fills (front ++ a) cs (front ++ b) :=
  (refl front).append h

/-- The same code after both. -/
theorem append_right (h : Fills a cs b) (back : Code) : Fills (a ++ back) cs (b ++ back) := by
  have := h.append (refl back)
  rwa [List.append_nil] at this

/-- A group with nothing after it. -/
theorem singleton_group (d : Delimiter) (h : Fills a cs b) :
    Fills [.group d a] cs [.group d b] := by
  have := h.group d .nil
  rwa [List.append_nil] at this

/-- Of words that are not in the outline, the code has those that were put in, in their order. -/
theorem filter_words {p : String → Bool} (h : Fills a cs b) (hp : ∀ w ∈ a.words, p w = false) :
    b.words.filter p = cs.flatMap fun c => c.words.filter p := by
  induction h with
  | nil => rfl
  | @token t a b cs _ ih =>
    have hwords : words (t :: a) = t.words ++ words a := rfl
    rw [hwords, List.forall_mem_append] at hp
    have ht : t.words.filter p = [] :=
      List.filter_eq_nil_iff.2 fun w hw => Bool.eq_false_iff.1 (hp.1 w hw)
    show (t.words ++ words b).filter p = _
    rw [List.filter_append, ht, List.nil_append, ih hp.2]
  | group d _ _ ihbody ih =>
    rw [words_group_cons, List.forall_mem_append] at hp
    rw [words_group_cons, List.filter_append, ihbody hp.1, ih hp.2, List.flatMap_append]
  | insert c _ ih =>
    rw [words_append, List.filter_append, ih hp, List.flatMap_cons]

end Fills

end Code

/-! ## Outlines of nodes -/

mutual

/-- A node with nothing in the place of its code. -/
def Node.outline : Node → Node
  | .text t => .text t
  | .chunk marker _ => .chunk marker []
  | .choice _ body rest => .choice [] (Node.outlineAll body) rest.outline
  | .loop _ _ body => .loop [] [] (Node.outlineAll body)

/-- Nodes with nothing in the place of their code. -/
def Node.outlineAll : List Node → List Node
  | [] => []
  | n :: rest => n.outline :: Node.outlineAll rest

/-- What is left of a choice with nothing in the place of its code. -/
def Alternative.outline : Alternative → Alternative
  | .nothing => .nothing
  | .otherwise body => .otherwise (Node.outlineAll body)
  | .elseIf _ body rest => .elseIf [] (Node.outlineAll body) rest.outline

end

mutual

theorem Node.nameCount_outline (node : Node) : node.outline.nameCount = node.nameCount := by
  match node with
  | .text t => rfl
  | .chunk .output c => rfl
  | .chunk .effect c => rfl
  | .chunk (.other tag) c => rfl
  | .choice condition body rest =>
    rw [Node.outline, Node.nameCount, Node.nameCountAll_outlineAll, Alternative.nameCount_outline,
      Node.nameCount]
  | .loop pattern iterator body =>
    rw [Node.outline, Node.nameCount, Node.nameCountAll_outlineAll, Node.nameCount]

/-- The outline takes the names that the nodes take. -/
theorem Node.nameCountAll_outlineAll (nodes : List Node) :
    Node.nameCountAll (Node.outlineAll nodes) = Node.nameCountAll nodes := by
  match nodes with
  | [] => rfl
  | node :: rest =>
    rw [Node.outlineAll, Node.nameCountAll, Node.nameCount_outline, Node.nameCountAll_outlineAll,
      Node.nameCountAll]

theorem Alternative.nameCount_outline (rest : Alternative) :
    rest.outline.nameCount = rest.nameCount := by
  match rest with
  | .nothing => rfl
  | .otherwise body => exact Node.nameCountAll_outlineAll body
  | .elseIf condition body rest =>
    rw [Alternative.outline, Alternative.nameCount, Node.nameCountAll_outlineAll,
      Alternative.nameCount_outline, Alternative.nameCount]

end

/-! ## Emitted code -/

theorem Emit.steps_effect (runtime c : Code) (es : List (Entry Code)) :
    steps runtime (.effect c :: es) = effect c ++ steps runtime es := List.flatMap_cons

section

open Code Emit Construct

variable {runtime : Code} {stem : String}

theorem fills_binding (id : Token) {outline expr : Code} {cs : List Code}
    (h : Fills outline cs expr) :
    Fills (binding runtime id outline) cs (binding runtime id expr) :=
  (((h.singleton_group .paren).append_left _).append_left _).append_right _

theorem fills_emitChoice (condition : Code) {bodyOutline body restOutline otherwise : Code}
    {cs ds : List Code} (hbody : Fills bodyOutline cs body)
    (hrest : Fills restOutline ds otherwise) :
    Fills (emitChoice [] bodyOutline restOutline) (condition :: (cs ++ ds))
      (emitChoice condition body otherwise) := by
  have hcode : emitChoice condition body otherwise =
      .word "if" :: (condition ++ (body ++ .word "else" :: otherwise)) := by
    simp [emitChoice]
  rw [hcode]
  exact .token _ (.insert condition (hbody.append (hrest.token _)))

theorem fills_emitLoop (id : Token) (pattern iterator : Code) {bodyOutline body : Code}
    {cs : List Code} (hbody : Fills bodyOutline cs body) :
    Fills (emitLoop runtime id [] [] bodyOutline) (pattern :: iterator :: cs)
      (emitLoop runtime id pattern iterator body) := by
  -- What stands before the pattern, and what the loop does for each item.
  let front : Code := .word "let" :: .word "mut" :: id :: mark '=' ++
    call (path [] ["std", "vec", "Vec", "new"]) [] ++ mark ';' ++ [.word "for"]
  let inner (body : Code) : Code := id :: mark '.' ++ call [.word "push"] body ++ mark ';'
  let final : Code := call (path runtime ["FragmentTree", "List"]) [id]
  have hloop (pattern iterator body : Code) : emitLoop runtime id pattern iterator body =
      [.group .brace (front ++ (pattern ++ (.word "in" :: (iterator ++
        (.group .brace (inner body) :: final)))))] := by
    simp [emitLoop, front, inner, final]
  have hinner : Fills (inner bodyOutline) cs (inner body) :=
    (((hbody.singleton_group .paren).append_left _).append_left _).append_right _
  have hfinal : Fills (.group .brace (inner bodyOutline) :: final) cs
      (.group .brace (inner body) :: final) := (hinner.singleton_group .brace).append_right final
  rw [hloop, hloop]
  exact .singleton_group .brace ((Fills.insert pattern ((hfinal.insert iterator).token
    (.word "in"))).append_left front)

theorem fills_block {es fs : List (Entry Code)} {cs : List Code}
    (hitems : items runtime es = items runtime fs)
    (h : Fills (steps runtime es) cs (steps runtime fs)) :
    Fills (block runtime es) cs (block runtime fs) := by
  rw [block_eq, block_eq, hitems]
  exact (h.append_right _).singleton_group .brace

/-! ## Nodes -/

/-- What a block lists has nothing to do with the code in its nodes. -/
theorem items_direct_outline (n : Nat) (node : Node) :
    items runtime (node.outline.direct runtime stem n) =
      items runtime (node.direct runtime stem n) := by
  match node with
  | .text t => rfl
  | .chunk .output c => rfl
  | .chunk .effect c => rfl
  | .chunk (.other tag) c =>
    rw [Node.outline, Node.direct, Node.direct]
    split <;> rfl
  | .choice condition body rest =>
    rw [Node.outline, Node.direct, Node.direct, Node.nameCountAll_outlineAll,
      Alternative.nameCount_outline]
    rfl
  | .loop pattern iterator body =>
    rw [Node.outline, Node.direct, Node.direct, Node.nameCountAll_outlineAll]
    rfl

theorem items_directAll_outlineAll (n : Nat) (nodes : List Node) :
    items runtime (Node.directAll runtime stem n (Node.outlineAll nodes)) =
      items runtime (Node.directAll runtime stem n nodes) := by
  induction nodes generalizing n with
  | nil => rfl
  | cons node rest ih =>
    rw [Node.outlineAll, Node.directAll, Node.directAll, items_append, items_append,
      items_direct_outline, Node.nameCount_outline, ih]

mutual

theorem fills_step (n : Nat) (node : Node) :
    Fills (steps runtime (node.outline.direct runtime stem n)) node.codes
      (steps runtime (node.direct runtime stem n)) := by
  match node with
  | .text t => exact .nil
  | .chunk .output c =>
    rw [Node.outline, Node.direct, Node.direct, steps_value, steps_value]
    exact (fills_binding _ (.whole c)).append_right _
  | .chunk .effect c =>
    rw [Node.outline, Node.direct, Node.direct, steps_effect, steps_effect]
    exact ((Fills.whole c).append_right _).append_right _
  | .chunk (.other tag) c =>
    rw [Node.outline, Node.direct, Node.direct, Node.codes]
    split
    · exact .nil
    · rw [steps_effect, steps_effect]
      exact ((Fills.whole c).append_right _).append_right _
  | .choice condition body rest =>
    have hbody := fills_block (items_directAll_outlineAll n body) (fills_steps n body)
    have hrest := fills_alternative (n + Node.nameCountAll body) rest
    rw [Node.outline, Node.direct, Node.direct, Node.nameCountAll_outlineAll,
      Alternative.nameCount_outline, Node.codes, steps_value, steps_value]
    exact (fills_binding _ (fills_emitChoice condition hbody hrest)).append_right _
  | .loop pattern iterator body =>
    have hbody := fills_block (items_directAll_outlineAll (n + 1) body) (fills_steps (n + 1) body)
    rw [Node.outline, Node.direct, Node.direct, Node.nameCountAll_outlineAll, Node.codes,
      steps_value, steps_value]
    exact (fills_binding _ (fills_emitLoop _ pattern iterator hbody)).append_right _

/-- The statements of nodes are those of their outline with their code. -/
theorem fills_steps (n : Nat) (nodes : List Node) :
    Fills (steps runtime (Node.directAll runtime stem n (Node.outlineAll nodes)))
      (Node.allCodes nodes) (steps runtime (Node.directAll runtime stem n nodes)) := by
  match nodes with
  | [] => exact .nil
  | node :: rest =>
    have hrest := fills_steps (n + node.nameCount) rest
    rw [Node.outlineAll, Node.directAll, Node.directAll, steps_append, steps_append,
      Node.nameCount_outline, Node.allCodes]
    exact (fills_step n node).append hrest

/-- The code of what is left of a choice is that of its outline with its code. -/
theorem fills_alternative (n : Nat) (rest : Alternative) :
    Fills (rest.outline.direct runtime stem n) rest.codes (rest.direct runtime stem n) := by
  match rest with
  | .nothing => exact .refl _
  | .otherwise body => exact fills_block (items_directAll_outlineAll n body) (fills_steps n body)
  | .elseIf condition body rest =>
    have hbody := fills_block (items_directAll_outlineAll n body) (fills_steps n body)
    have hrest := fills_alternative (n + Node.nameCountAll body) rest
    rw [Alternative.outline, Alternative.direct, Alternative.direct, Alternative.codes,
      Node.nameCountAll_outlineAll]
    exact fills_emitChoice condition hbody hrest

end

end

/-- If the names with the stem and a number are identifiers, the code of a template is the code of
its outline, into which the code of its nodes is put in the order of the template. -/
theorem Template.fills_compile (runtime : Code) (options : Options) (nodes : List Node)
    (hnames : ∀ n, Word.isPlain (Ident.numbered options.stem n).name.toList = true) :
    ∃ outline code, compile runtime options (Node.outlineAll nodes) = .ok outline ∧
      compile runtime options nodes = .ok code ∧
      Code.Fills outline (Node.allCodes nodes) code := by
  refine ⟨_, _, compile_eq_direct runtime options _ hnames,
    compile_eq_direct runtime options nodes hnames, ?_⟩
  exact fills_block (items_directAll_outlineAll 0 nodes) (fills_steps 0 nodes)

end TextTemplate
