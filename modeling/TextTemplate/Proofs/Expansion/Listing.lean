import TextTemplate.Proofs.Expansion.Order

/-!
# What the blocks of a template list

Each body of a template is made a block that ends in a list: an item for each text, value, choice
and loop of the body. No other block ends so.

- `Emit.endsInList`: whether a block ends in a list of items.
- `Code.listing`: the blocks in a piece of code that do.
- `Node.bodies`: the bodies in a template.
- `Node.Item`, `Emit.Lists`: a block lists the nodes of a body.
- `listing_binding`, `listing_block`, `listing_emitLoop` and the like: the blocks of emitted code.
- `lists_steps`: the bodies in nodes are listed by the blocks in their code.
- `Template.order_of_compile`: the main statement.
-/

namespace TextTemplate

/-! ## Blocks that end in a list -/

namespace Emit

/-- Whether a block ends in the tree of a list, whatever its items are. -/
def endsInList (runtime block : Code) : Bool :=
  match block.getLast? with
  | some (.group .paren argument) =>
    match argument.getLast? with
    | some (.group .bracket items) => (list runtime [items]).isSuffixOf block
    | _ => false
  | _ => false

variable {runtime : Code}

theorem list_eq_snoc (runtime : Code) (items : List Code) :
    list runtime items = path runtime ["FragmentTree", "List"] ++
      [.group .paren (path [] ["std", "vec"] ++ mark '!' ++ [.group .bracket (commas items)])] :=
  rfl

theorem endsInList_append_list (runtime front : Code) (items : List Code) :
    endsInList runtime (front ++ list runtime items) = true := by
  have hlast : (front ++ list runtime items).getLast? =
      some (.group .paren (path [] ["std", "vec"] ++ mark '!' ++
        [.group .bracket (commas items)])) := by
    rw [list_eq_snoc, ← List.append_assoc, List.getLast?_concat]
  rw [endsInList, hlast]
  dsimp only
  rw [List.getLast?_concat]
  exact List.isSuffixOf_iff_suffix.2 (List.suffix_append front (list runtime [commas items]))

theorem endsInList_mark (runtime block : Code) (c : Char) (s : Spacing) :
    endsInList runtime (block ++ [.mark c s]) = false := by
  rw [endsInList, List.getLast?_concat]

/-- A block that ends in a call is none, if the argument does not end in brackets. -/
theorem endsInList_paren (runtime block : Code) {argument : Code}
    (h : ∀ items, argument.getLast? ≠ some (.group .bracket items)) :
    endsInList runtime (block ++ [.group .paren argument]) = false := by
  rw [endsInList, List.getLast?_concat]
  dsimp only
  split
  · next heq => exact absurd heq (h _)
  · rfl

/-- What ends in a list has the path to the runtime in it. -/
theorem size_lt_of_endsInList {block : Code} (h : endsInList runtime block = true) :
    runtime.size < block.size := by
  rw [endsInList] at h
  split at h
  · split at h
    · next items _ =>
      obtain ⟨front, rfl⟩ := List.isSuffixOf_iff_suffix.1 h
      have hpath : runtime.size ≤ (path runtime ["FragmentTree", "List"]).size := by
        rw [path, Code.size_append]
        exact Nat.le_add_right _ _
      have hgroup := Token.size_pos (.group .paren
        (path [] ["std", "vec"] ++ mark '!' ++ [.group .bracket (commas [items])]))
      rw [Code.size_append, list_eq_snoc, Code.size_append, Code.size_cons]
      omega
    · exact absurd h Bool.false_ne_true
  · exact absurd h Bool.false_ne_true

end Emit

namespace Code

open Token

mutual

theorem size_lt_of_mem_token (t : Token) : ∀ block ∈ t.blocks, size block < t.size := by
  match t with
  | .word _ | .mark _ _ | .literal _ => exact nofun
  | .group .brace body =>
    have hsize : (Token.group .brace body).size = 1 + size body := rfl
    rw [hsize]
    refine List.forall_mem_cons.2 ⟨by omega, fun block hblock => ?_⟩
    have := size_lt_of_mem_blocks body block hblock
    omega
  | .group .paren body | .group .bracket body =>
    intro block hblock
    exact Nat.lt_add_left 1 (size_lt_of_mem_blocks body block hblock)

/-- A block is smaller than the code in which it stands. -/
theorem size_lt_of_mem_blocks (code : Code) : ∀ block ∈ code.blocks, size block < size code := by
  match code with
  | [] => exact nofun
  | t :: rest =>
    have hblocks : blocks (t :: rest) = t.blocks ++ blocks rest := rfl
    rw [hblocks, size_cons, List.forall_mem_append]
    refine ⟨fun block hblock => ?_, fun block hblock => ?_⟩
    · exact Nat.lt_add_right _ (size_lt_of_mem_token t block hblock)
    · exact Nat.lt_add_left _ (size_lt_of_mem_blocks rest block hblock)

end

/-- The blocks in a piece of code that end in a list. -/
def listing (runtime code : Code) : List Code := code.blocks.filter (Emit.endsInList runtime)

section

variable (runtime a b : Code)

@[simp] theorem listing_nil : listing runtime [] = [] := rfl

@[simp] theorem listing_append :
    listing runtime (a ++ b) = listing runtime a ++ listing runtime b := by
  rw [listing, blocks_append, List.filter_append]
  rfl

@[simp] theorem listing_word_cons (name : String) :
    listing runtime (.word name :: a) = listing runtime a := rfl

@[simp] theorem listing_mark_cons (c : Char) (s : Spacing) :
    listing runtime (.mark c s :: a) = listing runtime a := rfl

@[simp] theorem listing_literal_cons (t : String) :
    listing runtime (.literal t :: a) = listing runtime a := rfl

@[simp] theorem listing_paren_cons (body : Code) :
    listing runtime (.group .paren body :: a) = listing runtime body ++ listing runtime a :=
  List.filter_append _ _

@[simp] theorem listing_bracket_cons (body : Code) :
    listing runtime (.group .bracket body :: a) = listing runtime body ++ listing runtime a :=
  List.filter_append _ _

theorem listing_brace (body : Code) (h : Emit.endsInList runtime body = true) :
    listing runtime [.group .brace body] = body :: listing runtime body := by
  rw [listing, blocks_brace_cons, List.filter_cons_of_pos h, blocks_nil, List.append_nil]
  rfl

theorem listing_brace_cons (body : Code) (h : Emit.endsInList runtime body = false) :
    listing runtime (.group .brace body :: a) = listing runtime body ++ listing runtime a := by
  rw [listing, blocks_brace_cons, List.filter_cons_of_neg (Bool.eq_false_iff.1 h),
    List.filter_append]
  rfl

variable {a} in
theorem listing_of_blocks_eq_nil (h : a.blocks = []) : listing runtime a = [] := by
  rw [listing, h]
  rfl

/-- The path to the runtime is too small for a block that ends in a list. -/
@[simp] theorem listing_self : listing runtime runtime = [] := by
  refine List.filter_eq_nil_iff.2 fun block hblock hends => ?_
  have hlt := size_lt_of_mem_blocks runtime block hblock
  exact absurd (Emit.size_lt_of_endsInList hends) (Nat.lt_asymm hlt)

end

end Code

/-! ## Emitted code -/

section

open Code Emit Construct

variable {runtime : Code}

theorem listing_mark (c : Char) : listing runtime (mark c) = [] := rfl

theorem listing_path (front : Code) (names : List String) :
    listing runtime (path front names) = listing runtime front := by
  have hnames : listing runtime (names.flatMap fun name => colons ++ [.word name]) = [] := by
    induction names with
    | nil => rfl
    | cons name names ih => rw [List.flatMap_cons, listing_append, ih]; rfl
  rw [path, listing_append, hnames, List.append_nil]

theorem listing_call (function argument : Code) : listing runtime (call function argument) =
    listing runtime function ++ listing runtime argument := by
  simp [call]

theorem listing_binding (id : String) (expr : Code) :
    listing runtime (binding runtime (.word id) expr) = listing runtime expr := by
  simp [binding, listing_mark, listing_call, listing_path]

theorem listing_effect (c : Code) : listing runtime (effect c) = listing runtime c := by
  simp [effect, listing_mark]

theorem listing_leaf (s : String) : listing runtime (leaf runtime s) = [] := by
  simp [leaf, listing_call, listing_path, Token.ofText]

theorem listing_commas (items : List Code) :
    listing runtime (commas items) = items.flatMap (listing runtime) := by
  fun_induction commas items with
  | case1 => rfl
  | case2 item => simp
  | case3 item rest _ ih => simp [listing_mark, ih]

theorem listing_items (es : List (Entry Code)) :
    (items runtime es).flatMap (listing runtime) = [] := by
  induction es with
  | nil => rfl
  | cons x es ih =>
    cases x with
    | text t =>
      show listing runtime (leaf runtime t) ++ (items runtime es).flatMap (listing runtime) = []
      rw [listing_leaf, ih]
      rfl
    | value id e => exact ih
    | effect c => exact ih

theorem listing_steps_value (id : Ident) (e : Code) :
    listing runtime (steps runtime [.value id e]) = listing runtime e := by
  have hnil : listing runtime (steps runtime []) = [] := rfl
  rw [steps_value, listing_append, listing_binding, hnil, List.append_nil]

theorem listing_steps_effect (c : Code) :
    listing runtime (steps runtime [.effect c]) = listing runtime c := by
  have hnil : listing runtime (steps runtime []) = [] := rfl
  rw [steps_effect, listing_append, listing_effect, hnil, List.append_nil]

/-- The first block of the code of a block is this block, and the others are in its statements. -/
theorem listing_block (es : List (Entry Code)) :
    listing runtime (block runtime es) =
      (steps runtime es ++ list runtime (items runtime es)) ::
        listing runtime (steps runtime es) := by
  have hlist : listing runtime (list runtime (items runtime es)) = [] := by
    simp [list, listing_mark, listing_call, listing_path, listing_commas, listing_items]
  rw [block_eq, listing_brace _ _ (endsInList_append_list _ _ _), listing_append, hlist,
    List.append_nil]

theorem listing_emitEmpty : listing runtime (emitEmpty runtime) = [] := by
  have hends : endsInList runtime (call (path runtime ["FragmentTree", "empty"]) []) = false :=
    endsInList_paren _ _ nofun
  rw [emitEmpty, listing_brace_cons _ _ _ hends, listing_call, listing_path, listing_self]
  rfl

theorem listing_emitChoice (condition body otherwise : Code) :
    listing runtime (emitChoice condition body otherwise) = listing runtime condition ++
      (listing runtime body ++ listing runtime otherwise) := by
  simp [emitChoice]

theorem listing_emitLoop (id : String) (pattern iterator body : Code) :
    listing runtime (emitLoop runtime (.word id) pattern iterator body) =
      listing runtime pattern ++ (listing runtime iterator ++ listing runtime body) := by
  -- The loop does not end in a list of items, and what it does for each item is a statement.
  let inner : Code := .word id :: mark '.' ++ call [.word "push"] body
  let front : Code := .word "let" :: .word "mut" :: .word id :: mark '=' ++
    call (path [] ["std", "vec", "Vec", "new"]) [] ++ mark ';' ++ .word "for" :: pattern ++
    .word "in" :: iterator ++ [.group .brace (inner ++ mark ';')]
  have hloop : emitLoop runtime (.word id) pattern iterator body =
      [.group .brace (front ++ path runtime ["FragmentTree", "List"] ++
        [.group .paren [.word id]])] := by
    simp [emitLoop, front, inner, call]
  have hinner : listing runtime [.group .brace (inner ++ mark ';')] = listing runtime body := by
    have hends : endsInList runtime (inner ++ mark ';') = false :=
      endsInList_mark runtime inner ';' .alone
    rw [listing_brace_cons _ _ _ hends]
    simp [inner, listing_mark, call]
  rw [hloop, listing_brace_cons _ _ _ (endsInList_paren _ _ (by simp)), listing_append,
    listing_append, listing_path, listing_self]
  simp [front, hinner, listing_mark, listing_call, listing_path]

end

/-! ## Bodies -/

mutual

/-- The bodies in a node, in order. -/
def Node.inner : Node → List (List Node)
  | .text _ | .chunk _ _ => []
  | .choice _ body rest => body :: (Node.innerAll body ++ rest.inner)
  | .loop _ _ body => body :: Node.innerAll body

/-- The bodies in nodes, in order. -/
def Node.innerAll : List Node → List (List Node)
  | [] => []
  | n :: rest => n.inner ++ Node.innerAll rest

/-- The bodies in what is left of a choice, in order. -/
def Alternative.inner : Alternative → List (List Node)
  | .nothing => []
  | .otherwise body => body :: Node.innerAll body
  | .elseIf _ body rest => body :: (Node.innerAll body ++ rest.inner)

end

/-- The bodies of a template, in order. The first one is the template itself. -/
def Node.bodies (nodes : List Node) : List (List Node) := nodes :: Node.innerAll nodes

/-- Whether a node gives text to its block: all do but effects and remarks. -/
def Node.isListed : Node → Bool
  | .chunk .effect _ | .chunk (.other _) _ => false
  | .text _ | .chunk .output _ | .choice _ _ _ | .loop _ _ _ => true

/-- The item that a node is given in the list of its block: a text is written down, and everything
else is known by a name. -/
inductive Node.Item (runtime : Code) (stem : String) : Node → Code → Prop
  | text (t : String) : Item runtime stem (.text t) (Emit.leaf runtime t)
  | output (c : Code) (n : Nat) :
    Item runtime stem (.chunk .output c) [.word (Ident.numbered stem n).name]
  | choice (condition : Code) (body : List Node) (rest : Alternative) (n : Nat) :
    Item runtime stem (.choice condition body rest) [.word (Ident.numbered stem n).name]
  | loop (pattern iterator : Code) (body : List Node) (n : Nat) :
    Item runtime stem (.loop pattern iterator body) [.word (Ident.numbered stem n).name]

/-- The block ends in a list that has one item for each node of the body that gives text, in the
order of the body. -/
def Emit.Lists (runtime : Code) (stem : String) (body : List Node) (block : Code) : Prop :=
  ∃ front items, block = front ++ list runtime items ∧
    List.Forall₂ (Node.Item runtime stem) (body.filter Node.isListed) items

section

open Code Emit Construct

variable {runtime : Code} {stem : String}

theorem item_direct (n : Nat) (node : Node) :
    List.Forall₂ (Node.Item runtime stem) ([node].filter Node.isListed)
      (items runtime (node.direct runtime stem n)) := by
  cases node with
  | text t => exact .cons (.text t) .nil
  | chunk marker c =>
    cases marker with
    | output => exact .cons (.output c n) .nil
    | effect => exact .nil
    | other tag =>
      rw [Node.direct]
      split
      · exact .nil
      · exact .nil
  | choice condition body rest => exact .cons (.choice condition body rest _) .nil
  | loop pattern iterator body => exact .cons (.loop pattern iterator body _) .nil

/-- The list of a block has the items of its nodes. -/
theorem items_directAll (n : Nat) (nodes : List Node) :
    List.Forall₂ (Node.Item runtime stem) (nodes.filter Node.isListed)
      (items runtime (Node.directAll runtime stem n nodes)) := by
  induction nodes generalizing n with
  | nil => exact .nil
  | cons node rest ih =>
    rw [Node.directAll, items_append, ← List.singleton_append, List.filter_append]
    exact List.rel_append (item_direct n node) (ih _)

/-- If the blocks in the nodes of a body are listed, so is the block of the body. -/
theorem lists_block {n : Nat} {nodes : List Node}
    (h : List.Forall₂ (Lists runtime stem) (Node.innerAll nodes)
      (listing runtime (steps runtime (Node.directAll runtime stem n nodes)))) :
    List.Forall₂ (Lists runtime stem) (Node.bodies nodes)
      (listing runtime (block runtime (Node.directAll runtime stem n nodes))) := by
  rw [listing_block]
  exact .cons ⟨_, _, rfl, items_directAll n nodes⟩ h

mutual

theorem lists_step (n : Nat) (node : Node) (h : ∀ c ∈ node.codes, c.blocks = []) :
    List.Forall₂ (Lists runtime stem) node.inner
      (listing runtime (steps runtime (node.direct runtime stem n))) := by
  match node with
  | .text t => exact .nil
  | .chunk .output c =>
    rw [Node.direct, listing_steps_value, listing_of_blocks_eq_nil _ (h c List.mem_cons_self)]
    exact .nil
  | .chunk .effect c =>
    rw [Node.direct, listing_steps_effect, listing_of_blocks_eq_nil _ (h c List.mem_cons_self)]
    exact .nil
  | .chunk (.other tag) c =>
    rw [Node.codes] at h
    rw [Node.direct]
    split at h
    · next htag =>
      rw [if_pos htag]
      exact .nil
    · next htag =>
      rw [if_neg htag, listing_steps_effect,
        listing_of_blocks_eq_nil _ (h c List.mem_cons_self)]
      exact .nil
  | .choice condition body rest =>
    rw [Node.codes, List.forall_mem_cons, List.forall_mem_append] at h
    obtain ⟨hcondition, hinner, hothers⟩ := h
    have hbody := lists_block (lists_steps n body hinner)
    have hrest := lists_alternative (n + Node.nameCountAll body) rest hothers
    rw [Node.direct, listing_steps_value, listing_emitChoice,
      listing_of_blocks_eq_nil _ hcondition, List.nil_append]
    exact List.rel_append hbody hrest
  | .loop pattern iterator body =>
    rw [Node.codes, List.forall_mem_cons, List.forall_mem_cons] at h
    obtain ⟨hpattern, hiterator, hinner⟩ := h
    have hbody := lists_block (lists_steps (n + 1) body hinner)
    rw [Node.direct, listing_steps_value, listing_emitLoop, listing_of_blocks_eq_nil _ hpattern,
      listing_of_blocks_eq_nil _ hiterator, List.nil_append, List.nil_append]
    exact hbody

/-- The bodies in nodes are listed by the blocks in their statements, one after the other. -/
theorem lists_steps (n : Nat) (nodes : List Node) (h : ∀ c ∈ Node.allCodes nodes, c.blocks = []) :
    List.Forall₂ (Lists runtime stem) (Node.innerAll nodes)
      (listing runtime (steps runtime (Node.directAll runtime stem n nodes))) := by
  match nodes with
  | [] => exact .nil
  | node :: rest =>
    rw [Node.allCodes, List.forall_mem_append] at h
    rw [Node.directAll, steps_append, listing_append, Node.innerAll]
    exact List.rel_append (lists_step n node h.1) (lists_steps _ rest h.2)

theorem lists_alternative (n : Nat) (rest : Alternative) (h : ∀ c ∈ rest.codes, c.blocks = []) :
    List.Forall₂ (Lists runtime stem) rest.inner
      (listing runtime (rest.direct runtime stem n)) := by
  match rest with
  | .nothing =>
    rw [Alternative.direct, listing_emitEmpty]
    exact .nil
  | .otherwise body => exact lists_block (lists_steps n body h)
  | .elseIf condition body rest =>
    rw [Alternative.codes, List.forall_mem_cons, List.forall_mem_append] at h
    obtain ⟨hcondition, hinner, hothers⟩ := h
    have hbody := lists_block (lists_steps n body hinner)
    have hrest := lists_alternative (n + Node.nameCountAll body) rest hothers
    rw [Alternative.direct, listing_emitChoice, listing_of_blocks_eq_nil _ hcondition,
      List.nil_append]
    exact List.rel_append hbody hrest

end

end

/-! ## Templates -/

/-- The words in the code of nodes, in order. -/
def Node.words (nodes : List Node) : List String := (Node.allCodes nodes).flatMap Code.words

/-- **Each piece of code is written once, in the order of the template**, and each block lists its
text in order. Let the names with the stem and a number be identifiers, and every piece of code in
the nodes be a word that does not stand elsewhere: it is none of the words of the outline. Then
the code of the nodes has these words in the order of the template. Of the blocks in it those that
end in a list belong to the bodies of the template, in order, and the list of each has an item for
every text, value, choice and loop of its body, in order, and no others. -/
theorem Template.order_of_compile (runtime outline : Code) (options : Options) (nodes : List Node)
    (hnames : ∀ n, Word.isPlain (Ident.numbered options.stem n).name.toList = true)
    (hcodes : ∀ c ∈ Node.allCodes nodes, ∃ word, c = [.word word])
    (houtline : compile runtime options (Node.outlineAll nodes) = .ok outline)
    (helsewhere : ∀ word ∈ Node.words nodes, word ∉ outline.words) :
    ∃ code, compile runtime options nodes = .ok code ∧
      code.words.filter (· ∈ Node.words nodes) = Node.words nodes ∧
      List.Forall₂ (Emit.Lists runtime options.stem) (Node.bodies nodes)
        (code.blocks.filter (Emit.endsInList runtime)) := by
  obtain ⟨_, code, houtline', hcode, hfills⟩ := fills_compile runtime options nodes hnames
  obtain rfl := Except.ok.inj (houtline.symm.trans houtline')
  refine ⟨code, hcode, ?_, ?_⟩
  · rw [hfills.filter_words fun word hword =>
      decide_eq_false fun hmem => helsewhere word hmem hword, ← List.filter_flatMap]
    exact List.filter_eq_self.2 fun word hword => decide_eq_true hword
  · rw [compile_eq_direct runtime options nodes hnames] at hcode
    obtain rfl := Except.ok.inj hcode
    refine lists_block (lists_steps 0 nodes fun c hc => ?_)
    obtain ⟨word, rfl⟩ := hcodes c hc
    rfl

/-- A loop in a choice: three bodies, and five words in their order. -/
theorem Template.order_of_compile_sample :
    (∀ n, Word.isPlain (Ident.numbered Options.standard.stem n).name.toList = true) ∧
      (∀ c ∈ Node.allCodes Node.sample, ∃ word, c = [.word word]) ∧
      ∃ outline code,
        compile Emit.defaultRuntime .standard (Node.outlineAll Node.sample) = .ok outline ∧
        (∀ word ∈ Node.words Node.sample, word ∉ outline.words) ∧
        compile Emit.defaultRuntime .standard Node.sample = .ok code ∧
        code.words.filter (· ∈ ["c", "p", "i", "b", "e"]) = ["c", "p", "i", "b", "e"] ∧
        List.Forall₂ (Emit.Lists Emit.defaultRuntime "arg") (Node.bodies Node.sample)
          (code.blocks.filter (Emit.endsInList Emit.defaultRuntime)) := by
  have hnames : ∀ n, Word.isPlain (Ident.numbered Options.standard.stem n).name.toList = true :=
    Ident.isPlain_numbered (by decide +kernel)
  have hlist : Node.allCodes Node.sample =
      [[.word "c"], [.word "p"], [.word "i"], [.word "b"], [.word "e"]] := rfl
  have hcodes : ∀ c ∈ Node.allCodes Node.sample, ∃ word, c = [.word word] := by
    rw [hlist]
    simp
  have houtline := compile_eq_direct Emit.defaultRuntime .standard (Node.outlineAll Node.sample)
    hnames
  have helsewhere : ∀ word ∈ Node.words Node.sample, word ∉ (Emit.block Emit.defaultRuntime
      (Node.directAll Emit.defaultRuntime Options.standard.stem 0
        (Node.outlineAll Node.sample))).words := by
    decide +kernel
  obtain ⟨code, hcode, hwords, hlists⟩ := order_of_compile Emit.defaultRuntime _ .standard
    Node.sample hnames hcodes houtline helsewhere
  exact ⟨hnames, hcodes, _, code, houtline, helsewhere, hcode, hwords, hlists⟩

end TextTemplate
