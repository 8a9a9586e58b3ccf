import TextTemplate.Proofs.Program.Action
import TextTemplate.Proofs.Tree.Visit
import TextTemplate.Tree.Value

/-!
# Blocks in the order of the text

A block keeps its statements apart from its fragments, and only names join the two. An entry is what
one part of a template adds to both, so that a list of entries is a block in the order of the text.

- `Ident.numbered_injective`: names with different numbers are different.
- `Entry`, `Block.ofEntries`: the block of a list of entries.
- `Entry.walk`: entries evaluated from left to right in a single pass.
- `execute_ofEntries`: running the block of entries with different names is that walk.
- `Segment.item`, `flatten_items`: what the walk collects, as a tree and as a text.
-/

namespace TextTemplate

namespace Ident

/-- Names with the same stem and different numbers are different. -/
theorem numbered_injective (stem : String) : Function.Injective (numbered stem) := by
  intro m n h
  have hname : stem ++ toString m = stem ++ toString n := congrArg Ident.name h
  have hlist : (toString m).toList = (toString n).toList := by
    simpa using congrArg String.toList hname
  have hdigits : Nat.toDigits 10 m = Nat.toDigits 10 n := by
    simpa only [Nat.toString_eq_repr, Nat.toList_repr] using hlist
  simpa using congrArg (fun digits => Nat.ofDigitChars 10 digits 0) hdigits

end Ident

/-! ## What is collected -/

namespace Segment

/-- A part of a text as an item of a tree: a value is shared. -/
def item : Segment Tree → Tree
  | literal s => .text s
  | value v => .shared v

/-- The text of a part. -/
def content : Segment Tree → String
  | literal s => s
  | value v => v.flatten

theorem flatten_item (part : Segment Tree) : part.item.flatten = part.content := by
  cases part with
  | literal s => simp [item, content, Tree.flatten]
  | value v => simp [item, content, Tree.flatten, Tree.leaves_eq_texts]

/-- The text of a list of items is that of its parts, in order. -/
theorem flatten_items (parts : List (Segment Tree)) :
    (Tree.list (parts.map item)).flatten = String.join (parts.map content) := by
  rw [Tree.flatten_list, List.map_map]
  exact congrArg String.join (List.map_congr_left fun part _ => flatten_item part)

end Segment

namespace Env

/-- The part of a text that a fragment stands for. -/
def part? (env : Env) : Fragment → Option (Segment Tree)
  | .text s => some (.literal s)
  | .ref id => (env.get? id).map .value

/-- Fragments that stand for parts are read one after the other, in whatever way they are read. -/
theorem mapM_of_parts {m : Type → Type} [Monad m] [LawfulMonad m] {env : Env}
    {read : Fragment → m Tree} {tree : Segment Tree → Tree}
    (hread : ∀ f part, env.part? f = some part → read f = pure (tree part))
    {fragments : List Fragment} {parts : List (Segment Tree)}
    (h : fragments.mapM env.part? = some parts) :
    fragments.mapM read = pure (parts.map tree) := by
  induction fragments generalizing parts with
  | nil =>
    cases h
    rfl
  | cons f rest ih =>
    rw [List.mapM_cons, Option.bind_eq_bind, Option.bind_eq_some_iff] at h
    obtain ⟨part, hf, h⟩ := h
    rw [Option.bind_eq_bind, Option.bind_eq_some_iff] at h
    obtain ⟨others, hrest, h⟩ := h
    cases h
    rw [List.mapM_cons, hread f part hf, pure_bind, ih hrest, pure_bind]
    rfl

/-- Fragments that stand for parts make a tree. -/
theorem gather_of_parts {χ : Type} {env : Env} {fragments : List Fragment}
    {parts : List (Segment Tree)} (h : fragments.mapM env.part? = some parts) :
    (env.gather fragments : Except (ExecError χ) Tree) = .ok (.list (parts.map Segment.item)) := by
  have hitem (f : Fragment) (part : Segment Tree) (hf : env.part? f = some part) :
      (env.item f : Except (ExecError χ) Tree) = pure part.item := by
    cases f with
    | text s =>
      cases hf
      rfl
    | ref id =>
      obtain ⟨v, hv, rfl⟩ := Option.map_eq_some_iff.1 hf
      rw [item, hv]
      rfl
  rw [gather, mapM_of_parts hitem h]
  rfl

end Env

/-! ## Entries -/

/-- What a part of a template adds to a block. -/
inductive Entry (ε : Type)
  /-- A text. -/
  | text (s : String)
  /-- A value that is bound to a name and put into the text. -/
  | value (id : Ident) (expr : ε)
  /-- An expression that is run for its effect. -/
  | effect (expr : ε)

namespace Entry

variable {σ ε χ : Type}

/-- The block of a single entry. -/
def block : Entry ε → Block ε
  | text s => ⟨[], [.text s]⟩
  | value id e => ⟨[.bind id e], [.ref id]⟩
  | effect e => ⟨[.effect e], []⟩

/-- The name that an entry binds. -/
def name? : Entry ε → Option Ident
  | text _ | effect _ => none
  | value id _ => some id

/-- The names that entries bind, in order. -/
def names (entries : List (Entry ε)) : List Ident := entries.filterMap name?

@[simp] theorem names_nil : names ([] : List (Entry ε)) = [] := rfl

@[simp] theorem names_text (s : String) (rest : List (Entry ε)) :
    names (text s :: rest) = names rest := rfl

@[simp] theorem names_value (id : Ident) (e : ε) (rest : List (Entry ε)) :
    names (value id e :: rest) = id :: names rest := rfl

@[simp] theorem names_effect (e : ε) (rest : List (Entry ε)) :
    names (effect e :: rest) = names rest := rfl

@[simp] theorem names_append (front back : List (Entry ε)) :
    names (front ++ back) = names front ++ names back := by
  simp [names]

/-- Evaluates entries from left to right. The first call has the given number; every call sees the
names that are bound before it. -/
def walk (ev : Evaluator σ ε χ) (index : Nat) (env : Env) :
    List (Entry ε) → Action σ (ExecError χ) (List (Segment Tree))
  | [] => return []
  | text s :: rest => do
    let parts ← walk ev index env rest
    return .literal s :: parts
  | value id e :: rest => do
    let v ← (ev.eval e env).mapError (.eval index)
    let parts ← walk ev (index + 1) (env.bind id v) rest
    return .value v :: parts
  | effect e :: rest => do
    (ev.exec e env).mapError (.eval index)
    walk ev (index + 1) env rest

theorem walk_value (ev : Evaluator σ ε χ) (index : Nat) (env : Env) (id : Ident) (e : ε)
    (rest : List (Entry ε)) :
    walk ev index env (value id e :: rest) =
      (ev.eval e env).mapError (.eval index) >>= fun v =>
        (.value v :: ·) <$> walk ev (index + 1) (env.bind id v) rest := by
  rw [walk]
  simp only [bind_pure_comp]

end Entry

namespace Block

variable {ε : Type}

/-- The block of a list of entries. -/
def ofEntries : List (Entry ε) → Block ε
  | [] => empty
  | e :: rest => e.block ++ ofEntries rest

@[simp] theorem ofEntries_nil : ofEntries ([] : List (Entry ε)) = empty := rfl

@[simp] theorem ofEntries_cons (e : Entry ε) (rest : List (Entry ε)) :
    ofEntries (e :: rest) = e.block ++ ofEntries rest := rfl

@[simp] theorem statements_ofEntries_text (s : String) (rest : List (Entry ε)) :
    (ofEntries (.text s :: rest)).statements = (ofEntries rest).statements := rfl

@[simp] theorem statements_ofEntries_value (id : Ident) (e : ε) (rest : List (Entry ε)) :
    (ofEntries (.value id e :: rest)).statements = .bind id e :: (ofEntries rest).statements := rfl

@[simp] theorem statements_ofEntries_effect (e : ε) (rest : List (Entry ε)) :
    (ofEntries (.effect e :: rest)).statements = .effect e :: (ofEntries rest).statements := rfl

@[simp] theorem fragments_ofEntries_text (s : String) (rest : List (Entry ε)) :
    (ofEntries (.text s :: rest)).fragments = .text s :: (ofEntries rest).fragments := rfl

@[simp] theorem fragments_ofEntries_value (id : Ident) (e : ε) (rest : List (Entry ε)) :
    (ofEntries (.value id e :: rest)).fragments = .ref id :: (ofEntries rest).fragments := rfl

@[simp] theorem fragments_ofEntries_effect (e : ε) (rest : List (Entry ε)) :
    (ofEntries (.effect e :: rest)).fragments = (ofEntries rest).fragments := rfl

theorem ofEntries_append (front back : List (Entry ε)) :
    ofEntries (front ++ back) = ofEntries front ++ ofEntries back := by
  induction front with
  | nil => rfl
  | cons e rest ih => rw [List.cons_append, ofEntries_cons, ofEntries_cons, ih, append_assoc]

/-- A block of entries binds their names. -/
@[simp] theorem bindings_ofEntries (entries : List (Entry ε)) :
    (ofEntries entries).bindings = Entry.names entries := by
  induction entries with
  | nil => rfl
  | cons e rest ih =>
    cases e with
    | text s => exact ih
    | value id e => exact congrArg (id :: ·) ih
    | effect e => exact ih

/-- A block of entries mentions the names that it binds, and in the same order. -/
@[simp] theorem references_ofEntries (entries : List (Entry ε)) :
    (ofEntries entries).references = Entry.names entries := by
  induction entries with
  | nil => rfl
  | cons e rest ih =>
    cases e with
    | text s => exact ih
    | value id e => exact congrArg (id :: ·) ih
    | effect e => exact ih

end Block

/-! ## Runs -/

namespace Evaluator

variable {σ ε χ : Type}

/-- Running a statement that binds a value goes on with that value under its name. -/
theorem runFrom_bind (ev : Evaluator σ ε χ) (index : Nat) (env : Env) (id : Ident) (e : ε)
    (rest : List (Statement ε)) :
    ev.runFrom index env (.bind id e :: rest) =
      ((ev.eval e env).mapError (.eval index) >>= fun v =>
        ev.runFrom (index + 1) (env.bind id v) rest) := by
  rw [runFrom, step, Action.mapError_bind, bind_assoc]
  rfl

/-- Running a statement for its effect goes on with the same names. -/
theorem runFrom_effect (ev : Evaluator σ ε χ) (index : Nat) (env : Env) (e : ε)
    (rest : List (Statement ε)) :
    ev.runFrom index env (.effect e :: rest) =
      ((ev.exec e env).mapError (.eval index) >>= fun _ =>
        ev.runFrom (index + 1) env rest) := by
  rw [runFrom, step, Action.mapError_bind, bind_assoc]
  rfl

end Evaluator

namespace Entry

variable {σ ε χ : Type}

/-- The environment after the statements of entries belongs to what the walk has collected: the
fragments of the entries are the parts, and all other names have kept their values. -/
structure Explains (entries : List (Entry ε)) (parts : List (Segment Tree)) (env env' : Env) :
    Prop where
  parts : (Block.ofEntries entries).fragments.mapM env'.part? = some parts
  others : ∀ id, id ∉ names entries → env'.get? id = env.get? id

/-- The statements of entries end as the walk does: with the same fault and state, or in the same
state and with an environment that belongs to the parts. -/
inductive Follows (entries : List (Entry ε)) (env : Env) :
    Except (ExecError χ) (List (Segment Tree)) × σ → Except (ExecError χ) Env × σ → Prop
  | error (e : ExecError χ) (s : σ) : Follows entries env (.error e, s) (.error e, s)
  | ok {parts : List (Segment Tree)} {env' : Env} (s : σ) (h : Explains entries parts env env') :
    Follows entries env (.ok parts, s) (.ok env', s)

/-- A value keeps its place among the fragments if its name is not bound again. -/
theorem Explains.value {rest : List (Entry ε)} {parts : List (Segment Tree)} {env env' : Env}
    {id : Ident} {v : Tree} (h : Explains rest parts (env.bind id v) env') (e : ε)
    (hid : id ∉ names rest) : Explains (value id e :: rest) (.value v :: parts) env env' := by
  have hv : env'.get? id = some v := by
    rw [h.others id hid, Env.get?_bind_self]
  constructor
  · rw [Block.fragments_ofEntries_value, List.mapM_cons, h.parts, Env.part?, hv]
    rfl
  · intro other hother
    rw [names_value, List.mem_cons, not_or] at hother
    rw [h.others other hother.2, Env.get?_bind_of_ne _ _ (Ne.symm hother.1)]

theorem Explains.text {rest : List (Entry ε)} {parts : List (Segment Tree)} {env env' : Env}
    (h : Explains rest parts env env') (s : String) :
    Explains (text s :: rest) (.literal s :: parts) env env' := by
  constructor
  · rw [Block.fragments_ofEntries_text, List.mapM_cons, h.parts]
    rfl
  · exact h.others

theorem Explains.effect {rest : List (Entry ε)} {parts : List (Segment Tree)} {env env' : Env}
    (h : Explains rest parts env env') (e : ε) : Explains (effect e :: rest) parts env env' :=
  ⟨h.parts, h.others⟩

/-- One statement after the other, the block of entries does what the walk does. -/
theorem follows_runFrom (ev : Evaluator σ ε χ) (entries : List (Entry ε)) (index : Nat) (env : Env)
    (s : σ) (h : (names entries).Nodup) :
    Follows entries env ((walk ev index env entries).on s)
      ((ev.runFrom index env (Block.ofEntries entries).statements).on s) := by
  induction entries generalizing index env s with
  | nil => exact .ok s ⟨rfl, fun _ _ => rfl⟩
  | cons entry rest ih =>
    cases entry with
    | text t =>
      have hf := ih index env s h
      rw [walk, Action.on_bind, Block.statements_ofEntries_text]
      generalize (walk ev index env rest).on s = w at hf ⊢
      generalize (ev.runFrom index env (Block.ofEntries rest).statements).on s = r at hf ⊢
      cases hf with
      | error e s' => exact .error e s'
      | ok s' hx => exact .ok s' (hx.text t)
    | value id e =>
      obtain ⟨hid, hrest⟩ := List.nodup_cons.1 h
      rw [walk, Block.statements_ofEntries_value, ev.runFrom_bind, Action.on_bind, Action.on_bind]
      rcases (ev.eval e env).mapError (ExecError.eval index) |>.on s with ⟨_ | v, s'⟩
      · exact .error _ s'
      · have hf := ih (index + 1) (env.bind id v) s' hrest
        dsimp only
        rw [Action.on_bind]
        generalize (walk ev (index + 1) (env.bind id v) rest).on s' = w at hf ⊢
        generalize (ev.runFrom (index + 1) (env.bind id v) _).on s' = r at hf ⊢
        cases hf with
        | error e s' => exact .error e s'
        | ok s' hx => exact .ok s' (hx.value e hid)
    | effect e =>
      rw [walk, Block.statements_ofEntries_effect, ev.runFrom_effect, Action.on_bind,
        Action.on_bind]
      rcases (ev.exec e env).mapError (ExecError.eval index) |>.on s with ⟨_ | v, s'⟩
      · exact .error _ s'
      · have hf := ih (index + 1) env s' h
        dsimp only
        generalize (walk ev (index + 1) env rest).on s' = w at hf ⊢
        generalize (ev.runFrom (index + 1) env _).on s' = r at hf ⊢
        cases hf with
        | error e s' => exact .error e s'
        | ok s' hx => exact .ok s' (hx.effect e)

end Entry

/-- **Running the block of entries is walking over them**, if no name is bound twice. -/
theorem execute_ofEntries {σ ε χ : Type} (ev : Evaluator σ ε χ) (entries : List (Entry ε))
    (h : (Entry.names entries).Nodup) :
    execute ev (Block.ofEntries entries) =
      (Entry.walk ev 0 .empty entries >>= fun parts => pure (.list (parts.map Segment.item))) := by
  apply Action.ext
  intro s
  have hf := Entry.follows_runFrom ev entries 0 .empty s h
  rw [execute, Action.on_bind, Action.on_bind]
  generalize (Entry.walk ev 0 .empty entries).on s = w at hf ⊢
  generalize (ev.runFrom 0 .empty (Block.ofEntries entries).statements).on s = r at hf ⊢
  cases hf with
  | error e s' => rfl
  | ok s' hx =>
    show (MonadExcept.ofExcept (Env.gather _ _) : Action σ (ExecError χ) Tree).on s' = _
    rw [Env.gather_of_parts hx.parts]
    rfl

end TextTemplate
