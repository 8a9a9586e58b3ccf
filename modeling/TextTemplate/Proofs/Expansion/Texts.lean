import TextTemplate.Proofs.Expansion.Listing
import TextTemplate.Proofs.Expansion.Naming
import TextTemplate.Proofs.Program.Texts
import TextTemplate.Proofs.Template.Seam

/-!
# Texts in the code of a template

The texts of a template are written into its code as literals. Each is read back as it was, from
where it stands, and the list of a block has the texts of its body in order.

- `Code.Hosts`: the blocks of some bodies stand in a piece of code, in order.
- `Code.chars_infix_of_mem_blocks`: a block is written where it stands.
- `Node.Spelled`: a block ends in a list with the texts of a body.
- `hosts_steps`: the blocks of the bodies in nodes stand in their statements.
- `legible_directAll`: the code of nodes is read back if the code in them is.
- `texts_of_code`: the main statement.
-/

namespace TextTemplate

namespace Code

/-! ## Blocks that stand in code -/

/-- Among the blocks in a piece of code there is one for each body, in the order of the bodies. -/
def Hosts (R : List Node → Code → Prop) (bodies : List (List Node)) (code : Code) : Prop :=
  ∃ blocks, blocks.Sublist code.blocks ∧ List.Forall₂ R bodies blocks

namespace Hosts

variable {R : List Node → Code → Prop} {a b : Code} {bodies others : List (List Node)}

theorem nil (R : List Node → Code → Prop) (a : Code) : Hosts R [] a :=
  ⟨[], List.nil_sublist _, .nil⟩

theorem append (ha : Hosts R bodies a) (hb : Hosts R others b) :
    Hosts R (bodies ++ others) (a ++ b) := by
  obtain ⟨front, hfront, hallfront⟩ := ha
  obtain ⟨back, hback, hallback⟩ := hb
  refine ⟨front ++ back, ?_, List.rel_append hallfront hallback⟩
  rw [blocks_append]
  exact hfront.append hback

theorem append_left (front : Code) (h : Hosts R bodies a) : Hosts R bodies (front ++ a) :=
  (nil R front).append h

theorem append_right (h : Hosts R bodies a) (back : Code) : Hosts R bodies (a ++ back) := by
  have := h.append (nil R back)
  rwa [List.append_nil] at this

theorem group (d : Delimiter) (h : Hosts R bodies a) : Hosts R bodies [.group d a] := by
  obtain ⟨blocks, hblocks, hall⟩ := h
  refine ⟨blocks, hblocks.trans ?_, hall⟩
  cases d with
  | brace => exact (List.sublist_append_left _ _).trans (List.sublist_cons_self a _)
  | paren => exact List.sublist_append_left _ _
  | bracket => exact List.sublist_append_left _ _

/-- A block stands before those in it. -/
theorem brace {body : List Node} (h : R body a) (hinner : Hosts R bodies a) :
    Hosts R (body :: bodies) [.group .brace a] := by
  obtain ⟨blocks, hblocks, hall⟩ := hinner
  refine ⟨a :: blocks, ?_, .cons h hall⟩
  rw [blocks_brace_cons, blocks_nil, List.append_nil]
  exact hblocks.cons_cons a

theorem exists_of_forall₂ {body : List Node} {blocks : List Code}
    (h : List.Forall₂ R bodies blocks) (hbody : body ∈ bodies) :
    ∃ block ∈ blocks, R body block := by
  induction h with
  | nil => cases hbody
  | cons hR _ ih =>
    rcases List.mem_cons.1 hbody with rfl | hbody
    · exact ⟨_, List.mem_cons_self, hR⟩
    · obtain ⟨block, hblock, hR⟩ := ih hbody
      exact ⟨block, List.mem_cons_of_mem _ hblock, hR⟩

theorem exists_of_mem {body : List Node} (h : Hosts R bodies a) (hbody : body ∈ bodies) :
    ∃ block ∈ a.blocks, R body block := by
  obtain ⟨blocks, hblocks, hall⟩ := h
  obtain ⟨block, hblock, hR⟩ := exists_of_forall₂ hall hbody
  exact ⟨block, hblocks.subset hblock, hR⟩

end Hosts

mutual

theorem chars_infix_of_mem_token {block : Code} (t : Token) (h : block ∈ t.blocks) :
    block.chars <:+: t.chars := by
  match t with
  | .word _ | .mark _ _ | .literal _ => cases h
  | .group .brace body =>
    refine List.IsInfix.trans ?_ (chars_infix_group body .brace)
    rcases List.mem_cons.1 h with rfl | h
    · exact List.infix_refl _
    · exact chars_infix_of_mem_blocks body h
  | .group .paren body =>
    exact (chars_infix_of_mem_blocks body h).trans (chars_infix_group body .paren)
  | .group .bracket body =>
    exact (chars_infix_of_mem_blocks body h).trans (chars_infix_group body .bracket)

/-- A block is written where it stands. -/
theorem chars_infix_of_mem_blocks {block : Code} (code : Code) (h : block ∈ code.blocks) :
    block.chars <:+: code.chars := by
  match code with
  | [] => cases h
  | t :: rest =>
    have hblocks : blocks (t :: rest) = t.blocks ++ blocks rest := rfl
    rw [hblocks, List.mem_append] at h
    rcases h with h | h
    · exact (chars_infix_of_mem_token t h).trans (chars_prefix_append [t] rest).isInfix
    · exact (chars_infix_of_mem_blocks rest h).trans (chars_suffix_append [t] rest).isInfix

end

end Code

section

open Code Emit Construct

variable {runtime : Code} {stem : String} {R : List Node → Code → Prop}

/-! ## Bodies in emitted code -/

theorem hosts_binding {bodies : List (List Node)} {expr : Code} (id : String)
    (h : Hosts R bodies expr) : Hosts R bodies (binding runtime (.word id) expr) :=
  (((h.group .paren).append_left _).append_left _).append_right _

theorem hosts_emitChoice {bodies others : List (List Node)} {body otherwise : Code}
    (condition : Code) (hbody : Hosts R bodies body) (hrest : Hosts R others otherwise) :
    Hosts R (bodies ++ others) (emitChoice condition body otherwise) :=
  (hbody.append_left _).append (hrest.append_left [.word "else"])

theorem hosts_emitLoop {bodies : List (List Node)} {body : Code} (id : String)
    (pattern iterator : Code) (h : Hosts R bodies body) :
    Hosts R bodies (emitLoop runtime (.word id) pattern iterator body) :=
  -- From the inside out: what the loop does for each item, the loop, and the block around it.
  have hinner := (((h.group .paren).append_left _).append_left _).append_right _
  (((hinner.group .brace).append_left _).append_right _).group .brace

/-! ## The blocks of nodes -/

/-- The block of some nodes has their texts. -/
theorem texts_directAll (n : Nat) (nodes : List Node) :
    (Block.ofEntries (Node.directAll runtime stem n nodes)).fragments.filterMap Fragment.text? =
      nodes.filterMap Node.text? := by
  induction nodes generalizing n with
  | nil => rfl
  | cons node rest ih =>
    have hnode : (Block.ofEntries (node.direct runtime stem n)).fragments.filterMap Fragment.text? =
        [node].filterMap Node.text? := by
      cases node with
      | text t => rfl
      | chunk marker c =>
        cases marker with
        | output => rfl
        | effect => rfl
        | other tag =>
          rw [Node.direct]
          split <;> rfl
      | choice condition body rest => rfl
      | loop pattern iterator body => rfl
    rw [Node.directAll, Block.ofEntries_append, Block.fragments_append, List.filterMap_append,
      hnode, ih, ← List.filterMap_append, List.singleton_append]

/-- The names in the block of some nodes are identifiers if those with the stem are. -/
theorem isPlain_directAll (runtime : Code) (hstem : Word.isPlain stem.toList = true) (n : Nat)
    (nodes : List Node) :
    ∀ id ∈ (Block.ofEntries (Node.directAll runtime stem n nodes)).bindings ++
        (Block.ofEntries (Node.directAll runtime stem n nodes)).references,
      Word.isPlain id.name.toList = true := by
  intro id hid
  have hnames := Ident.isPlain_numbered hstem
  have hrenders := renders_entries (fun k => Ident.toToken_of_isPlain (hnames k)) runtime n nodes
  rw [Block.bindings_ofEntries, Block.references_ofEntries, List.mem_append, or_self,
    names_of_renders hrenders] at hid
  obtain ⟨k, -, -, rfl⟩ := (numbered_entries stem n nodes).exists_number id hid
  exact hnames k

end

/-! ## Bodies and their texts -/

/-- A block ends in a list with the texts of a body. -/
def Node.Spelled (runtime : Code) (body : List Node) (block : Code) : Prop :=
  Emit.Spells runtime (body.filterMap Node.text?) block

section

open Code Emit Construct

variable {runtime : Code} {stem : String}

/-- If the blocks in the nodes of a body stand in its statements, the block of the body stands
before them. -/
theorem hosts_block (hstem : Word.isPlain stem.toList = true) {n : Nat} {nodes : List Node}
    (h : Hosts (Node.Spelled runtime) (Node.innerAll nodes)
      (steps runtime (Node.directAll runtime stem n nodes))) :
    Hosts (Node.Spelled runtime) (Node.bodies nodes)
      (block runtime (Node.directAll runtime stem n nodes)) := by
  refine .brace ?_ (h.append_right _)
  have hnames := isPlain_directAll runtime hstem n nodes
  have hspells := Block.spells_code runtime (List.forall_mem_append.1 hnames).2
  rwa [texts_directAll] at hspells

mutual

theorem hosts_step (hstem : Word.isPlain stem.toList = true) (n : Nat) (node : Node) :
    Hosts (Node.Spelled runtime) node.inner (steps runtime (node.direct runtime stem n)) := by
  match node with
  | .text _ | .chunk _ _ => exact .nil _ _
  | .choice condition body rest =>
    have hbody := hosts_block hstem (hosts_steps hstem n body)
    have hrest := hosts_alternative hstem (n + Node.nameCountAll body) rest
    rw [Node.direct, steps_value]
    exact (hosts_binding _ (hosts_emitChoice condition hbody hrest)).append_right _
  | .loop pattern iterator body =>
    have hbody := hosts_block hstem (hosts_steps hstem (n + 1) body)
    rw [Node.direct, steps_value]
    exact (hosts_binding _ (hosts_emitLoop _ pattern iterator hbody)).append_right _

/-- **The blocks of the bodies in nodes stand in their statements**, one after the other. -/
theorem hosts_steps (hstem : Word.isPlain stem.toList = true) (n : Nat) (nodes : List Node) :
    Hosts (Node.Spelled runtime) (Node.innerAll nodes)
      (steps runtime (Node.directAll runtime stem n nodes)) := by
  match nodes with
  | [] => exact .nil _ _
  | node :: rest =>
    rw [Node.directAll, steps_append]
    exact (hosts_step hstem n node).append (hosts_steps hstem _ rest)

theorem hosts_alternative (hstem : Word.isPlain stem.toList = true) (n : Nat) (rest : Alternative) :
    Hosts (Node.Spelled runtime) rest.inner (rest.direct runtime stem n) := by
  match rest with
  | .nothing => exact .nil _ _
  | .otherwise body => exact hosts_block hstem (hosts_steps hstem n body)
  | .elseIf condition body rest =>
    exact hosts_emitChoice condition (hosts_block hstem (hosts_steps hstem n body))
      (hosts_alternative hstem (n + Node.nameCountAll body) rest)

end

/-! ## Code that is read back -/

theorem legible_emitChoice {condition body otherwise : Code} (hcondition : condition.Legible)
    (hbody : body.Legible) (hrest : otherwise.Legible) :
    (emitChoice condition body otherwise).Legible :=
  (((legible_word "if" (by decide)).append hcondition).append hbody).append
    ((legible_word "else" (by decide)).append hrest)

theorem legible_emitEmpty (hruntime : runtime.Legible) : (emitEmpty runtime).Legible :=
  (legible_call (legible_path hruntime _ (by decide)) .nil).group .brace

theorem legible_emitLoop {name : String} {pattern iterator body : Code}
    (hruntime : runtime.Legible) (hname : Word.isPlain name.toList = true)
    (hpattern : pattern.Legible) (hiterator : iterator.Legible) (hbody : body.Legible) :
    (emitLoop runtime (.word name) pattern iterator body).Legible := by
  have hlist : Legible (.word "let" :: .word "mut" :: .word name :: mark '=') :=
    (legible_word _ (by decide)).cons <| (legible_word _ (by decide)).cons <|
      (Legible.word hname).cons (.mark (by decide))
  have hnew := legible_call (legible_path .nil ["std", "vec", "Vec", "new"] (by decide)) .nil
  have hpush : Legible (.word name :: mark '.' ++ call [.word "push"] body ++ mark ';') :=
    (((Legible.word hname).cons (.mark (by decide))).append
      (legible_call (legible_word _ (by decide)) hbody)).append (.mark (by decide))
  have hfinal := legible_call (legible_path hruntime ["FragmentTree", "List"] (by decide))
    (.word hname)
  exact ((((((hlist.append hnew).append (.mark (by decide))).append
    ((legible_word _ (by decide)).cons hpattern)).append
    ((legible_word _ (by decide)).cons hiterator)).append
    (hpush.group .brace)).append hfinal).group .brace

theorem legible_block (hstem : Word.isPlain stem.toList = true) (hruntime : runtime.Legible)
    {n : Nat} {nodes : List Node}
    (h : ∀ s ∈ (Block.ofEntries (Node.directAll runtime stem n nodes)).statements,
      s.expr.Legible) : (block runtime (Node.directAll runtime stem n nodes)).Legible :=
  (Block.legible_code hruntime (isPlain_directAll runtime hstem n nodes) h).group .brace

mutual

theorem legible_direct (hstem : Word.isPlain stem.toList = true) (hruntime : runtime.Legible)
    (n : Nat) (node : Node) (h : ∀ c ∈ node.codes, c.Legible) :
    ∀ s ∈ (Block.ofEntries (node.direct runtime stem n)).statements, s.expr.Legible := by
  match node with
  | .text t => exact nofun
  | .chunk .output c => exact List.forall_mem_singleton.2 (h c List.mem_cons_self)
  | .chunk .effect c => exact List.forall_mem_singleton.2 (h c List.mem_cons_self)
  | .chunk (.other tag) c =>
    rw [Node.codes] at h
    rw [Node.direct]
    split at h
    · next htag =>
      rw [if_pos htag]
      exact nofun
    · next htag =>
      rw [if_neg htag]
      exact List.forall_mem_singleton.2 (h c List.mem_cons_self)
  | .choice condition body rest =>
    rw [Node.codes, List.forall_mem_cons, List.forall_mem_append] at h
    obtain ⟨hcondition, hinner, hothers⟩ := h
    have hbody := legible_block hstem hruntime (legible_directAll hstem hruntime n body hinner)
    have hrest := legible_alternative hstem hruntime (n + Node.nameCountAll body) rest hothers
    rw [Node.direct]
    exact List.forall_mem_singleton.2 (legible_emitChoice hcondition hbody hrest)
  | .loop pattern iterator body =>
    rw [Node.codes, List.forall_mem_cons, List.forall_mem_cons] at h
    obtain ⟨hpattern, hiterator, hinner⟩ := h
    have hexprs := legible_directAll hstem hruntime (n + 1) body hinner
    have hbody := legible_block hstem hruntime hexprs
    rw [Node.direct]
    exact List.forall_mem_singleton.2
      (legible_emitLoop hruntime (Ident.isPlain_numbered hstem n) hpattern hiterator hbody)

/-- The code of nodes is read back if the code in them is. -/
theorem legible_directAll (hstem : Word.isPlain stem.toList = true) (hruntime : runtime.Legible)
    (n : Nat) (nodes : List Node) (h : ∀ c ∈ Node.allCodes nodes, c.Legible) :
    ∀ s ∈ (Block.ofEntries (Node.directAll runtime stem n nodes)).statements, s.expr.Legible := by
  match nodes with
  | [] => exact nofun
  | node :: rest =>
    rw [Node.allCodes, List.forall_mem_append] at h
    rw [Node.directAll, Block.ofEntries_append, Block.statements_append]
    exact List.forall_mem_append.2
      ⟨legible_direct hstem hruntime n node h.1, legible_directAll hstem hruntime _ rest h.2⟩

theorem legible_alternative (hstem : Word.isPlain stem.toList = true)
    (hruntime : runtime.Legible) (n : Nat) (rest : Alternative)
    (h : ∀ c ∈ rest.codes, c.Legible) : (rest.direct runtime stem n).Legible := by
  match rest with
  | .nothing => exact legible_emitEmpty hruntime
  | .otherwise body =>
    exact legible_block hstem hruntime (legible_directAll hstem hruntime n body h)
  | .elseIf condition body rest =>
    rw [Alternative.codes, List.forall_mem_cons, List.forall_mem_append] at h
    obtain ⟨hcondition, hinner, hothers⟩ := h
    exact legible_emitChoice hcondition
      (legible_block hstem hruntime (legible_directAll hstem hruntime n body hinner))
      (legible_alternative hstem hruntime (n + Node.nameCountAll body) rest hothers)

end

end

/-! ## Templates -/

/-- **Texts survive in the code.** Code that is made from a block of code ends in a list that has
the texts among the fragments, in order: each is read where it stands, as one literal that has the
text as its value. In the code of a template this holds of the block of each body. What is written
is read back as the same code if this holds of the path to the runtime and of the code that was put
in. -/
theorem texts_of_code (runtime : Code) :
    (∀ (b : Block Code) (code : Code), b.emit runtime = .ok code →
      (∃ body, code = [.group .brace body] ∧
        Emit.Spells runtime (b.fragments.filterMap Fragment.text?) body) ∧
      (∀ t, .text t ∈ b.fragments → Emit.Quotes runtime code t) ∧
      (runtime.Legible → (∀ s ∈ b.statements, s.expr.Legible) →
        Code.ofChars? code.chars = some code)) ∧
    ∀ (options : Options) (nodes : List Node) (code : Code),
      Template.compile runtime options nodes = .ok code →
      code.Hosts (Node.Spelled runtime) (Node.bodies nodes) ∧
      (∀ body ∈ Node.bodies nodes, ∀ t, .text t ∈ body → Emit.Quotes runtime code t) ∧
      (runtime.Legible → (∀ c ∈ Node.allCodes nodes, c.Legible) →
        Code.ofChars? code.chars = some code) := by
  refine ⟨fun b code hcode => ?_, fun options nodes code hcode => ?_⟩
  · have hnames := Block.isPlain_of_emit hcode
    have hspells := Block.spells_code runtime (List.forall_mem_append.1 hnames).2
    rw [Block.emit_eq_code runtime b fun id h => Ident.toToken_of_isPlain (hnames id h)] at hcode
    obtain rfl := Except.ok.inj hcode
    refine ⟨⟨_, rfl, hspells⟩, fun t ht => ?_, fun hruntime hexprs => ?_⟩
    · have hquotes := hspells.1 t (List.mem_filterMap.2 ⟨_, ht, rfl⟩)
      exact hquotes.mono (Code.chars_infix_group _ .brace)
    · exact ((Block.legible_code hruntime hnames hexprs).group .brace).ofChars?_chars
  · -- The stem of the options may make no identifiers; then there is no name in the code.
    obtain ⟨stem, hstem, rfl⟩ := Template.exists_direct_of_compile hcode
    have hhosts : Code.Hosts (Node.Spelled runtime) (Node.bodies nodes)
        (Emit.block runtime (Node.directAll runtime stem 0 nodes)) :=
      hosts_block hstem (hosts_steps hstem 0 nodes)
    refine ⟨hhosts, fun body hbody t ht => ?_, fun hruntime hcodes => ?_⟩
    · -- The block of the body is written in the code, and the text in the block.
      obtain ⟨block, hblock, hspells⟩ := hhosts.exists_of_mem hbody
      have hquotes := hspells.1 t (List.mem_filterMap.2 ⟨_, ht, rfl⟩)
      exact hquotes.mono (Code.chars_infix_of_mem_blocks _ hblock)
    · have hexprs := legible_directAll hstem hruntime 0 nodes hcodes
      exact (legible_block hstem hruntime hexprs).ofChars?_chars

/-- A text with a quote, a backslash, braces, a line end, a digit after a character that is written
as `\0` elsewhere, a combining character and one that is not printed. -/
def Text.unusual : String := "\"\\\x7bn\x7d\n\x000\u0301\u200b"

/-- The text in a block, and in a template where it also stands in a choice. -/
theorem texts_of_code_unusual :
    (∃ code, (⟨[.bind ⟨"x"⟩ [.word "a"]], [.text Text.unusual, .ref ⟨"x"⟩]⟩ : Block Code).emit
        Emit.defaultRuntime = .ok code ∧
      (∃ body, code = [.group .brace body] ∧
        Emit.Spells Emit.defaultRuntime [Text.unusual] body) ∧
      Emit.Quotes Emit.defaultRuntime code Text.unusual ∧
      Code.ofChars? code.chars = some code) ∧
    ∃ code, Template.compile Emit.defaultRuntime .standard
        [.text Text.unusual, .choice [.word "c"] [.text Text.unusual] .nothing] = .ok code ∧
      code.Hosts (Node.Spelled Emit.defaultRuntime)
        [[.text Text.unusual, .choice [.word "c"] [.text Text.unusual] .nothing],
          [.text Text.unusual]] ∧
      Emit.Quotes Emit.defaultRuntime code Text.unusual ∧
      Code.ofChars? code.chars = some code := by
  have hruntime : Emit.defaultRuntime.Legible :=
    Code.Legible.nil.path (List.forall_mem_singleton.2 (by decide +kernel))
  have ha : Code.Legible [.word "a"] := .word (by decide +kernel)
  have hc : Code.Legible [.word "c"] := .word (by decide +kernel)
  obtain ⟨hblock, htemplate⟩ := texts_of_code Emit.defaultRuntime
  constructor
  · have hx : (⟨"x"⟩ : Ident).toToken = .ok (.word "x") :=
      Ident.toToken_of_isPlain (by decide +kernel)
    have hemit := Block.emit_eq_code Emit.defaultRuntime
      ⟨[.bind ⟨"x"⟩ [.word "a"]], [.text Text.unusual, .ref ⟨"x"⟩]⟩
      (List.forall_mem_cons.2 ⟨hx, List.forall_mem_singleton.2 hx⟩)
    obtain ⟨hbody, hquotes, hreads⟩ := hblock _ _ hemit
    exact ⟨_, hemit, hbody, hquotes _ List.mem_cons_self,
      hreads hruntime (List.forall_mem_singleton.2 ha)⟩
  · have hcompile := Template.compile_eq_direct Emit.defaultRuntime .standard
      [.text Text.unusual, .choice [.word "c"] [.text Text.unusual] .nothing]
      (Ident.isPlain_numbered (by decide +kernel))
    obtain ⟨hhosts, hquotes, hreads⟩ := htemplate _ _ _ hcompile
    exact ⟨_, hcompile, hhosts, hquotes _ List.mem_cons_self _ List.mem_cons_self,
      hreads hruntime (List.forall_mem_singleton.2 hc)⟩

end TextTemplate
