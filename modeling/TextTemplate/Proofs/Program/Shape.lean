import Mathlib.Data.List.Basic
import TextTemplate.Proofs.Code.Quoting
import TextTemplate.Proofs.Program.Written

/-!
# The shape of the code of a program

The statements of a program are ended by semicolons and its fragments are set apart by commas.
Expressions may have such marks inside of groups, but not where the code is split, so that the
program can be read back from its code.

- `Code.pieces`, `Code.items`: code split at the marks that stand in no group.
- `Emit.IsPath`: paths without generic arguments.
- `Statement.piece`: the code of a statement without the semicolon at its end.
- `pieces_code`, `items_commas`: what the code of a block is split into.
- `Statement.piece_injective`, `Fragment.code_injective`: what is read back from a piece.
- `Block.pieces_of_emit`: the main statement.
-/

namespace TextTemplate

/-! ## Splitting code -/

/-- Whether a token is a mark, whether it touches the next one or not. -/
def Token.isMark (c : Char) : Token → Bool
  | mark sign _ => sign == c
  | _ => false

namespace Code

/-- The pieces of code between the marks of one character. Marks in groups do not count. -/
def pieces (c : Char) (code : Code) : List Code := code.splitOnP (Token.isMark c)

/-- The items between commas. Code without tokens has no item. -/
def items (code : Code) : List Code := if code.isEmpty then [] else code.pieces ','

/-- A piece of code that is not split. -/
def Whole (c : Char) (code : Code) : Prop := ∀ t ∈ code, t.isMark c = false

variable {c : Char} {a b : Code}

theorem Whole.append (ha : a.Whole c) (hb : b.Whole c) : (a ++ b).Whole c :=
  List.forall_mem_append.2 ⟨ha, hb⟩

theorem Whole.pieces (h : a.Whole c) : a.pieces c = [a] := List.splitOnP_eq_singleton h

/-- A piece that is not split is the first one if a mark follows it. -/
theorem Whole.pieces_mark (h : a.Whole c) (rest : Code) :
    (a ++ Emit.mark c ++ rest).pieces c = a :: rest.pieces c := by
  rw [List.append_assoc]
  exact List.splitOnP_append_cons_of_forall_mem h (.mark c .alone) (beq_self_eq_true c) rest

/-- Items with commas between them are the pieces, unless they are split themselves. -/
theorem pieces_commas {parts : List Code} (hparts : parts ≠ [])
    (hwhole : ∀ part ∈ parts, Whole ',' part) : (Emit.commas parts).pieces ',' = parts := by
  induction parts with
  | nil => exact absurd rfl hparts
  | cons part rest ih =>
    obtain ⟨hpart, hrest⟩ := List.forall_mem_cons.1 hwhole
    cases rest with
    | nil => exact hpart.pieces
    | cons next rest =>
      show (part ++ Emit.mark ',' ++ Emit.commas (next :: rest)).pieces ',' = _
      rw [hpart.pieces_mark, ih (List.cons_ne_nil next rest) hrest]

theorem commas_ne_nil {part : Code} (hpart : part ≠ []) (rest : List Code) :
    Emit.commas (part :: rest) ≠ [] := by
  cases rest with
  | nil => exact hpart
  | cons next rest =>
    exact List.append_ne_nil_of_left_ne_nil (List.append_ne_nil_of_left_ne_nil hpart _) _

/-- Items with commas between them are found again. An empty item by itself would not be. -/
theorem items_commas {parts : List Code} (hwhole : ∀ part ∈ parts, Whole ',' part)
    (hne : ∀ part ∈ parts, part ≠ []) : (Emit.commas parts).items = parts := by
  cases parts with
  | nil => rfl
  | cons part rest =>
    have hempty : (Emit.commas (part :: rest)).isEmpty = false :=
      List.isEmpty_eq_false_iff.2 (commas_ne_nil (hne part List.mem_cons_self) rest)
    rw [items, hempty, if_neg Bool.false_ne_true,
      pieces_commas (List.cons_ne_nil part rest) hwhole]

end Code

/-! ## Paths -/

namespace Emit

/-- A path without generic arguments, with double colons at its front or without. -/
inductive IsPath : Code → Prop
  | global (names : List String) : IsPath (path [] names)
  | relative (name : String) (names : List String) : IsPath (path [.word name] names)

variable {c : Char} {front : Code}

/-- Names do not split a path, unless it is split at colons. -/
theorem whole_path (hc : c ≠ ':') (hfront : front.Whole c) (names : List String) :
    (path front names).Whole c := by
  have hcolon : (':' == c) = false := beq_false_of_ne hc.symm
  refine hfront.append fun t ht => ?_
  obtain ⟨name, -, ht⟩ := List.mem_flatMap.1 ht
  obtain rfl | rfl | rfl : t = .mark ':' .joint ∨ t = .mark ':' .alone ∨ t = .word name := by
    simpa [colons, Code.joined] using ht
  · exact hcolon
  · exact hcolon
  · rfl

theorem IsPath.whole {runtime : Code} (h : IsPath runtime) (hc : c ≠ ':') : runtime.Whole c := by
  cases h with
  | global names => exact whole_path hc (List.forall_mem_nil _) names
  | relative name names => exact whole_path hc (List.forall_mem_singleton.2 rfl) names

/-- A call is split only where the function is. -/
theorem whole_call {function : Code} (h : function.Whole c) (argument : Code) :
    (call function argument).Whole c :=
  h.append (List.forall_mem_singleton.2 rfl)

/-- The last piece of a block is the list of its fragments. -/
theorem whole_list {runtime : Code} (h : IsPath runtime) (items : List Code) :
    (list runtime items).Whole ';' :=
  whole_call (whole_path (by decide) (h.whole (by decide)) _) _

/-- The items are in the brackets at the end. -/
theorem commas_of_list_eq {runtime : Code} {xs ys : List Code}
    (h : list runtime xs = list runtime ys) : commas xs = commas ys := by
  have hargument := (Token.group.inj (List.singleton_inj.1 (List.append_cancel_left h))).2
  exact (Token.group.inj (List.singleton_inj.1 (List.append_cancel_left hargument))).2

end Emit

/-! ## Statements and fragments -/

namespace Statement

/-- The code of a statement without its semicolon. -/
def piece (runtime : Code) : Statement Code → Code
  | bind id e => .word "let" :: .word id.name :: Emit.mark '=' ++
      Emit.path runtime ["IntoFragment", "into_fragment"] ++ [.group .paren e]
  | effect e => e

variable {runtime : Code}

theorem code_eq_piece (s : Statement Code) : s.code runtime = s.piece runtime ++ Emit.mark ';' := by
  cases s with
  | effect e => rfl
  | bind id e => simp [code, piece, Emit.binding, Emit.call]

/-- A statement is one piece, if this holds of its effect. -/
theorem whole_piece (hruntime : Emit.IsPath runtime) {s : Statement Code}
    (h : ∀ e, s = .effect e → e.Whole ';') : (s.piece runtime).Whole ';' := by
  cases s with
  | effect e => exact h e rfl
  | bind id e =>
    have hlet : Code.Whole ';' (.word "let" :: .word id.name :: Emit.mark '=') := by
      simp [Code.Whole, Emit.mark, Code.joined, Token.isMark]
    exact (hlet.append (Emit.whole_path (by decide) (hruntime.whole (by decide)) _)).append
      (List.forall_mem_singleton.2 rfl)

/-- A statement is known from its piece, if it is known whether it binds a name. -/
theorem piece_injective {s t : Statement Code} (hkind : s.binding?.isSome = t.binding?.isSome)
    (h : s.piece runtime = t.piece runtime) : s = t := by
  cases s with
  | effect e =>
    cases t with
    | bind id f => exact absurd hkind Bool.false_ne_true
    | effect f => exact congrArg effect h
  | bind id e =>
    cases t with
    | effect f => exact absurd hkind.symm Bool.false_ne_true
    | bind id' f =>
      obtain ⟨hfront, hlast⟩ := List.append_inj' h rfl
      have hname : id.name = id'.name := by
        injection hfront with _ hfront
        injection hfront with hname _
        exact Token.word.inj hname
      have hid : id = id' := congrArg Ident.mk hname
      have he : e = f := (Token.group.inj (List.singleton_inj.1 hlast)).2
      rw [hid, he]

end Statement

namespace Fragment

variable {runtime : Code}

theorem whole_code (hruntime : Emit.IsPath runtime) (f : Fragment) :
    (f.code runtime).Whole ',' := by
  cases f with
  | text s => exact Emit.whole_call (Emit.whole_path (by decide) (hruntime.whole (by decide)) _) _
  | ref id => exact List.forall_mem_singleton.2 rfl

theorem code_ne_nil (f : Fragment) : f.code runtime ≠ [] := by
  cases f with
  | text s => exact List.append_ne_nil_of_right_ne_nil _ (List.cons_ne_nil _ _)
  | ref id => exact List.cons_ne_nil _ _

/-- A text is known from its literal. -/
theorem ofText_injective {s t : String} (h : Token.ofText s = Token.ofText t) : s = t := by
  have hvalue := StringLiteral.value?_quote s
  rw [Token.literal.inj h, StringLiteral.value?_quote t] at hvalue
  exact (String.toList_inj.1 (Option.some.inj hvalue)).symm

/-- A fragment is known from its code: the code of a text ends in a group. -/
theorem code_injective (runtime : Code) : Function.Injective (Fragment.code runtime) := by
  intro f g h
  have hlast : (f.code runtime).getLast? = (g.code runtime).getLast? := congrArg _ h
  cases f with
  | ref id =>
    cases g with
    | ref id' => exact congrArg (ref ∘ Ident.mk) (Token.word.inj (List.singleton_inj.1 h))
    | text t =>
      rw [code, code, Emit.leaf, Emit.call, List.getLast?_concat] at hlast
      cases hlast
  | text s =>
    cases g with
    | ref id =>
      rw [code, code, Emit.leaf, Emit.call, List.getLast?_concat] at hlast
      cases hlast
    | text t =>
      have hargument := (Token.group.inj (List.singleton_inj.1 (List.append_cancel_left h))).2
      have hborrowed := List.append_cancel_left hargument
      have hliteral := (Token.group.inj (List.singleton_inj.1 hborrowed)).2
      exact congrArg text (ofText_injective (List.singleton_inj.1 hliteral))

end Fragment

/-! ## Blocks -/

namespace Block

/-- Which of the statements bind a name. -/
def kinds (b : Block Code) : List Bool := b.statements.map fun s => s.binding?.isSome

/-- All names are identifiers, and no effect has a semicolon that stands in no group. -/
structure Separable (b : Block Code) : Prop where
  names : ∀ id ∈ b.bindings ++ b.references, ∃ t, id.toToken = .ok t
  effects : ∀ e, .effect e ∈ b.statements → e.Whole ';'

variable {runtime : Code} {b : Block Code}

/-- The pieces of statements, and what is left after them. -/
theorem pieces_statements {last : Code} (hlast : last.Whole ';')
    (statements : List (Statement Code)) (h : ∀ s ∈ statements, (s.piece runtime).Whole ';') :
    Code.pieces ';' (statements.flatMap (Statement.code runtime) ++ last) =
      statements.map (Statement.piece runtime) ++ [last] := by
  induction statements with
  | nil => exact hlast.pieces
  | cons s rest ih =>
    obtain ⟨hs, hrest⟩ := List.forall_mem_cons.1 h
    rw [List.flatMap_cons, Statement.code_eq_piece, List.append_assoc, hs.pieces_mark, ih hrest]
    rfl

/-- The code of a block is split into its statements and the list of its fragments. -/
theorem pieces_code (hruntime : Emit.IsPath runtime) (hb : b.Separable) :
    (b.code runtime).pieces ';' = b.statements.map (Statement.piece runtime) ++
      [Emit.list runtime (b.fragments.map (Fragment.code runtime))] := by
  refine pieces_statements (Emit.whole_list hruntime _) b.statements fun s hs => ?_
  refine Statement.whole_piece hruntime fun e he => ?_
  subst he
  exact hb.effects e hs

/-- The items of the list are the fragments. -/
theorem items_fragments (hruntime : Emit.IsPath runtime) (b : Block Code) :
    (Emit.commas (b.fragments.map (Fragment.code runtime))).items =
      b.fragments.map (Fragment.code runtime) := by
  refine Code.items_commas ?_ ?_
  · exact List.forall_mem_map.2 fun f _ => f.whole_code hruntime
  · exact List.forall_mem_map.2 fun f _ => f.code_ne_nil

theorem emit_of_separable (runtime : Code) (hb : b.Separable) :
    b.emit runtime = .ok [.group .brace (b.code runtime)] :=
  emit_eq_code runtime b fun id hid =>
    Ident.toToken_of_isPlain (Ident.isPlain_of_toToken (hb.names id hid).choose_spec)

/-- Blocks with the same code are the same, if their statements are of the same kinds. -/
theorem eq_of_code_eq (hruntime : Emit.IsPath runtime) {b' : Block Code} (hb : b.Separable)
    (hb' : b'.Separable) (hkinds : b.kinds = b'.kinds) (h : b.code runtime = b'.code runtime) :
    b = b' := by
  have hpieces := pieces_code hruntime hb
  rw [h, pieces_code hruntime hb'] at hpieces
  obtain ⟨hstatements, hlist⟩ := List.append_inj' hpieces.symm rfl
  refine Block.ext ?_ ?_
  · -- A binding and an effect may have the same piece, and so the kind goes with it.
    have hinj : Function.Injective fun s : Statement Code =>
        (s.binding?.isSome, s.piece runtime) := fun s t hst =>
      Statement.piece_injective (Prod.ext_iff.1 hst).1 (Prod.ext_iff.1 hst).2
    refine List.map_injective_iff.2 hinj ?_
    rw [← List.zip_map', ← List.zip_map', hstatements]
    exact congrArg (List.zip · _) hkinds
  · refine List.map_injective_iff.2 (Fragment.code_injective runtime) ?_
    rw [← items_fragments hruntime b, Emit.commas_of_list_eq (List.singleton_inj.1 hlist),
      items_fragments hruntime b']

end Block

/-- **The code of a program has its shape.** It is one group in braces. Split at its semicolons, it
gives a piece for each statement, in order, and the list, of which the brackets give an item for
each fragment when they are split at commas. Another program with the same code has statements of
other kinds, or it is the same program. -/
theorem Block.pieces_of_emit {runtime : Code} (hruntime : Emit.IsPath runtime) {b : Block Code}
    (hb : b.Separable) :
    ∃ body last brackets : Code,
      b.emit runtime = .ok [.group .brace body] ∧
      body.pieces ';' = b.statements.map (Statement.piece runtime) ++ [last] ∧
      (body.pieces ';').length = b.statements.length + 1 ∧
      last = Emit.path runtime ["FragmentTree", "List"] ++ [.group .paren
        (Emit.path [] ["std", "vec"] ++ Emit.mark '!' ++ [.group .bracket brackets])] ∧
      brackets.items = b.fragments.map (Fragment.code runtime) ∧
      brackets.items.length = b.fragments.length ∧
      ∀ b' : Block Code, b'.Separable → b'.emit runtime = b.emit runtime → b'.kinds = b.kinds →
        b' = b := by
  have hpieces := pieces_code hruntime hb
  have hitems := items_fragments hruntime b
  refine ⟨b.code runtime, _, _, emit_of_separable runtime hb, hpieces, ?_, rfl, hitems, ?_, ?_⟩
  · rw [hpieces, List.length_append, List.length_map, List.length_singleton]
  · rw [hitems, List.length_map]
  · intro b' hb' hemit hkinds
    rw [emit_of_separable runtime hb', emit_of_separable runtime hb] at hemit
    have hbody := (Token.group.inj (List.singleton_inj.1 (Except.ok.inj hemit))).2
    exact eq_of_code_eq hruntime hb' hb hkinds hbody

/-- A program with an effect that has a semicolon in a group, an effect without tokens, and an
expression that is a comma. -/
def Block.separated : Block Code where
  statements := [.effect [.group .brace (Emit.mark ';')], .bind ⟨"v0"⟩ (Emit.mark ','), .effect []]
  fragments := [.text "a, b; c", .ref ⟨"v0"⟩]

/-- The code of this program has four pieces and two items. -/
theorem Block.pieces_of_emit_separated :
    Emit.IsPath Emit.defaultRuntime ∧ Block.separated.Separable ∧
      ∃ body last brackets : Code,
        Block.separated.emit Emit.defaultRuntime = .ok [.group .brace body] ∧
        body.pieces ';' = [[.group .brace (Emit.mark ';')],
          Statement.piece Emit.defaultRuntime (.bind ⟨"v0"⟩ (Emit.mark ',')), [], last] ∧
        brackets.items =
          [Emit.leaf Emit.defaultRuntime "a, b; c", [.word "v0"]] := by
  have hruntime : Emit.IsPath Emit.defaultRuntime := .global ["fragtree"]
  have hb : Block.separated.Separable := by
    refine ⟨fun id hid => ⟨.word "v0", ?_⟩, fun e he => ?_⟩
    · obtain rfl : ⟨"v0"⟩ = id := by
        simpa [separated, bindings, references, Statement.binding?, Fragment.reference?] using hid
      decide
    · obtain rfl | rfl : e = [.group .brace (Emit.mark ';')] ∨ e = [] := by
        simpa [separated] using he
      · exact List.forall_mem_singleton.2 rfl
      · exact List.forall_mem_nil _
  obtain ⟨body, last, brackets, hemit, hpieces, -, -, hitems, -⟩ :=
    Block.pieces_of_emit hruntime hb
  exact ⟨hruntime, hb, body, last, brackets, hemit, hpieces, hitems⟩

end TextTemplate
