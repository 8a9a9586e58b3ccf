import TextTemplate.Proofs.Code.Generated
import TextTemplate.Proofs.Expansion.Direct
import TextTemplate.Proofs.Expansion.Preservation

/-!
# Where generated names stand

Every name that is given is declared once in the code of a template. The name of a value is used
once, in the list that ends the block of its declaration; the name of the list of a loop is used
twice, in the block that begins with its declaration.

- `Code.Scopes`: a name stands in a piece of code in one of these two ways.
- `Code.Owns`: a piece of code declares the names with numbers between two bounds, and has no other
  generated names.
- `Code.Owns.choice`, `Code.Owns.loop`: control owns the names of its parts, and a loop one more.
- `Emit.Owned`, `Emit.Owned.block`: so does a block, of which the entries own their names one after
  the other.
- `Template.scopes_of_compile`: the main statement.
-/

namespace TextTemplate

namespace Ident

/-- The names with numbers between two bounds. -/
def between (stem : String) (m n : Nat) : List String :=
  (List.range' m (n - m)).map fun k => (numbered stem k).name

theorem between_self (stem : String) (m : Nat) : between stem m m = [] := by
  rw [between, Nat.sub_self]
  rfl

theorem between_succ (stem : String) (m : Nat) :
    between stem m (m + 1) = [(numbered stem m).name] := by
  rw [between, Nat.add_sub_cancel_left]
  rfl

theorem between_append (stem : String) {l m n : Nat} (hl : l ≤ m) (hm : m ≤ n) :
    between stem l m ++ between stem m n = between stem l n := by
  have hrange : List.range' l (m - l) ++ List.range' m (n - m) = List.range' l (n - l) := by
    have h := List.range'_append_1 (s := l) (m := m - l) (n := n - m)
    rwa [Nat.add_sub_cancel' hl, show m - l + (n - m) = n - l by omega] at h
  rw [between, between, between, ← List.map_append, hrange]

theorem name_numbered_inj {stem : String} {j k : Nat} :
    (numbered stem j).name = (numbered stem k).name ↔ j = k := by
  refine ⟨fun h => numbered_injective stem ?_, fun h => by rw [h]⟩
  exact congrArg Ident.mk h

end Ident

namespace Code

/-! ## Names in scope -/

/-- A name is declared in a block of a piece of code, and is used there only, after that. -/
inductive Scopes (runtime : Code) (id : String) (code : Code) : Prop
  /-- The name of a value is used once, as an item of the list that ends the block. -/
  | value (front expr back : Code) (items : List Code)
      (hblock : front ++ Emit.binding runtime (.word id) expr ++ back ++ Emit.list runtime items ∈
        code.blocks)
      (hitem : [.word id] ∈ items) (hfront : id ∉ front.words) (hcount : code.words.count id = 2)
  /-- The name of the list of a loop is used twice, in the block that begins with it. -/
  | accumulator (rest : Code)
      (hblock : .word "let" :: .word "mut" :: .word id :: rest ∈ code.blocks)
      (hinside : rest.words.count id = 2) (hcount : code.words.count id = 3)

/-- A name that is in scope in a part of some code is so in the whole code, if it does not stand
anywhere else. -/
theorem Scopes.mono {runtime a b : Code} {id : String} (h : Scopes runtime id a)
    (hblocks : a.blocks ⊆ b.blocks) (hcount : b.words.count id = a.words.count id) :
    Scopes runtime id b := by
  cases h with
  | value front expr back items hblock hitem hfront ha =>
    exact .value front expr back items (hblocks hblock) hitem hfront (hcount.trans ha)
  | accumulator rest hblock hinside ha =>
    exact .accumulator rest (hblocks hblock) hinside (hcount.trans ha)

/-! ## Code with names of its own -/

/-- A piece of code declares the names with numbers between two bounds, once each. It has no other
generated names, and keeps these in scope. -/
structure Owns (runtime : Code) (stem : String) (m n : Nat) (code : Code) : Prop where
  le : m ≤ n
  declared : (code.numberedDeclared stem).Perm (Ident.between stem m n)
  bounded : ∀ id ∈ code.numbered stem, ∃ k, m ≤ k ∧ k < n ∧ id = (Ident.numbered stem k).name
  scopes : ∀ k, m ≤ k → k < n → Scopes runtime (Ident.numbered stem k).name code

namespace Owns

variable {runtime : Code} {stem : String} {l m n : Nat} {code body otherwise : Code}

/-- Names with other numbers do not stand in the code. -/
theorem count_eq_zero (h : Owns runtime stem m n code) {k : Nat} (hk : k < m ∨ n ≤ k) :
    (code.numbered stem).count (Ident.numbered stem k).name = 0 := by
  rw [List.count_eq_zero]
  intro hmem
  obtain ⟨j, hm, hn, hj⟩ := h.bounded _ hmem
  have := Ident.name_numbered_inj.1 hj
  omega

theorem of_free (h : code.Free stem) (m : Nat) : Owns runtime stem m m code where
  le := Nat.le_refl m
  declared := by rw [h.numberedDeclared_eq_nil, Ident.between_self]
  bounded id hid := by
    rw [h.numbered_eq_nil] at hid
    exact absurd hid List.not_mem_nil
  scopes k hm hn := absurd (Nat.lt_of_le_of_lt hm hn) (Nat.lt_irrefl m)

/-- Code that is made of two parts owns the names of both. -/
theorem of_parts {a b : Code} (ha : Owns runtime stem l m a) (hb : Owns runtime stem m n b)
    (hdeclared : code.numberedDeclared stem = a.numberedDeclared stem ++ b.numberedDeclared stem)
    (hnumbered : code.numbered stem = a.numbered stem ++ b.numbered stem)
    (hblocks : a.blocks ++ b.blocks ⊆ code.blocks) : Owns runtime stem l n code := by
  obtain ⟨hblocks_a, hblocks_b⟩ := List.append_subset.1 hblocks
  have hcount (k : Nat) : code.words.count (Ident.numbered stem k).name =
      (a.numbered stem).count (Ident.numbered stem k).name +
        (b.numbered stem).count (Ident.numbered stem k).name := by
    rw [count_words (Ident.isNumbered_numbered stem k), hnumbered, List.count_append]
  constructor
  case le => exact Nat.le_trans ha.le hb.le
  case declared =>
    rw [hdeclared, ← Ident.between_append stem ha.le hb.le]
    exact ha.declared.append hb.declared
  case bounded =>
    intro id hid
    rw [hnumbered, List.mem_append] at hid
    rcases hid with hid | hid
    · obtain ⟨k, hl, hm, rfl⟩ := ha.bounded id hid
      exact ⟨k, hl, Nat.lt_of_lt_of_le hm hb.le, rfl⟩
    · obtain ⟨k, hm, hn, rfl⟩ := hb.bounded id hid
      exact ⟨k, Nat.le_trans ha.le hm, hn, rfl⟩
  case scopes =>
    intro k hl hn
    -- The number says which part declares the name; it does not stand in the other one.
    rcases Nat.lt_or_ge k m with hm | hm
    · refine (ha.scopes k hl hm).mono hblocks_a ?_
      rw [hcount, hb.count_eq_zero (.inl hm), count_words (Ident.isNumbered_numbered stem k)]
      rfl
    · refine (hb.scopes k hm hn).mono hblocks_b ?_
      rw [hcount, ha.count_eq_zero (.inr hm), count_words (Ident.isNumbered_numbered stem k),
        Nat.zero_add]

/-- A choice owns the names of its body and those of what is chosen otherwise. -/
theorem choice {condition : Code} (hcondition : condition.Free stem)
    (hbody : Owns runtime stem l m [.group .brace body])
    (hotherwise : Owns runtime stem m n otherwise) :
    Owns runtime stem l n (Construct.emitChoice condition [.group .brace body] otherwise) := by
  refine of_parts hbody hotherwise ?_ (numbered_emitChoice hcondition _ _) ?_
  · rw [numberedDeclared_emitChoice hcondition, numberedDeclared_group_cons]
    exact congrArg (· ++ _) (List.append_nil _).symm
  · have hblocks : (Construct.emitChoice condition [.group .brace body] otherwise).blocks =
        condition.blocks ++ (blocks [.group .brace body] ++ otherwise.blocks) := by
      simp [Construct.emitChoice]
    rw [hblocks]
    exact List.subset_append_right _ _

/-- A loop owns the name of its list and the names of its body, which come after that. -/
theorem loop (hruntime : runtime.Free stem) {pattern iterator : Code} (hpattern : pattern.Free stem)
    (hiterator : iterator.Free stem) (hbody : Owns runtime stem (m + 1) n body) :
    Owns runtime stem m n
      (Construct.emitLoop runtime (.word (Ident.numbered stem m).name) pattern iterator body) := by
  have hid := Ident.isNumbered_numbered stem m
  have hnumbered := numbered_emitLoop hruntime hid hpattern hiterator body
  constructor
  case le => exact Nat.le_of_succ_le hbody.le
  case declared =>
    rw [numberedDeclared_emitLoop hruntime hid hpattern hiterator,
      ← Ident.between_append stem (Nat.le_succ m) hbody.le, Ident.between_succ]
    exact hbody.declared.cons _
  case bounded =>
    intro id hid
    rw [hnumbered] at hid
    simp only [List.mem_cons, List.mem_append, List.not_mem_nil, or_false] at hid
    have hm : m < n := hbody.le
    rcases hid with rfl | rfl | hid | rfl
    · exact ⟨m, Nat.le_refl m, hm, rfl⟩
    · exact ⟨m, Nat.le_refl m, hm, rfl⟩
    · obtain ⟨k, hk, hn, rfl⟩ := hbody.bounded id hid
      exact ⟨k, Nat.le_of_succ_le hk, hn, rfl⟩
    · exact ⟨m, Nat.le_refl m, hm, rfl⟩
  case scopes =>
    intro k hk hn
    rcases Nat.eq_or_lt_of_le hk with rfl | hk
    · have hthree : (Construct.emitLoop runtime (.word (Ident.numbered stem m).name) pattern
          iterator body).words.count (Ident.numbered stem m).name = 3 := by
        rw [count_words hid, hnumbered, List.count_cons_self, List.count_cons_self,
          List.count_append, hbody.count_eq_zero (.inl (Nat.lt_succ_self m)),
          List.count_singleton_self]
      obtain ⟨rest, hrest⟩ : ∃ rest, Construct.emitLoop runtime
          (.word (Ident.numbered stem m).name) pattern iterator body =
            [.group .brace (.word "let" :: .word "mut" :: .word (Ident.numbered stem m).name ::
              rest)] := ⟨_, rfl⟩
      rw [hrest] at hthree ⊢
      refine .accumulator rest List.mem_cons_self ?_ hthree
      -- The loop is nothing but this block, so one of the three is the declaration.
      rw [words_group_cons, words_nil, List.append_nil, words_word_cons, words_word_cons,
        words_word_cons, List.count_cons_of_ne (Ident.ne_of_isNumbered hid (by decide)).symm,
        List.count_cons_of_ne (Ident.ne_of_isNumbered hid (by decide)).symm,
        List.count_cons_self] at hthree
      exact Nat.succ.inj hthree
    · refine (hbody.scopes k hk hn).mono ?_ ?_
      · intro block hblock
        simp [Construct.emitLoop, Emit.call, hblock]
      · have hne : (Ident.numbered stem m).name ≠ (Ident.numbered stem k).name :=
          fun h => Nat.ne_of_lt hk (Ident.name_numbered_inj.1 h)
        rw [count_words (Ident.isNumbered_numbered stem k), hnumbered,
          count_words (Ident.isNumbered_numbered stem k), List.count_cons_of_ne hne,
          List.count_cons_of_ne hne, List.count_append, List.count_cons_of_ne hne]
        rfl

end Owns

end Code

/-! ## Blocks -/

namespace Emit

open Code

/-- The statements of a block of entries, as code. -/
def steps (runtime : Code) (entries : List (Entry Code)) : Code :=
  (Block.ofEntries entries).statements.flatMap (Statement.code runtime)

/-- The items of the list that ends a block of entries. -/
def items (runtime : Code) (entries : List (Entry Code)) : List Code :=
  (Block.ofEntries entries).fragments.map (Fragment.code runtime)

variable {runtime : Code} {stem : String} {l m n : Nat} {es front back : List (Entry Code)}

theorem block_eq (runtime : Code) (es : List (Entry Code)) :
    block runtime es = [.group .brace (steps runtime es ++ list runtime (items runtime es))] := rfl

theorem steps_append (runtime : Code) (front back : List (Entry Code)) :
    steps runtime (front ++ back) = steps runtime front ++ steps runtime back := by
  rw [steps, Block.ofEntries_append, Block.statements_append, List.flatMap_append]
  rfl

theorem items_append (runtime : Code) (front back : List (Entry Code)) :
    items runtime (front ++ back) = items runtime front ++ items runtime back := by
  rw [items, Block.ofEntries_append, Block.fragments_append, List.map_append]
  rfl

theorem steps_value (runtime : Code) (id : Ident) (e : Code) (es : List (Entry Code)) :
    steps runtime (.value id e :: es) =
      binding runtime (.word id.name) e ++ steps runtime es := List.flatMap_cons

theorem items_value (runtime : Code) (id : Ident) (e : Code) (es : List (Entry Code)) :
    items runtime (.value id e :: es) = [.word id.name] :: items runtime es := rfl

/-- The generated names in a block are those in its statements and those of its items. -/
theorem numbered_block (hruntime : runtime.Free stem) (es : List (Entry Code)) :
    (block runtime es).numbered stem =
      (steps runtime es).numbered stem ++ (items runtime es).flatMap (Code.numbered stem) := by
  rw [block_eq, Code.numbered, words_group_cons, words_nil, List.append_nil, words_append,
    List.filter_append, ← Code.numbered, ← Code.numbered, numbered_list hruntime]

theorem numbered_block_nil (hruntime : runtime.Free stem) :
    (block runtime []).numbered stem = [] := numbered_block hruntime []

theorem numbered_block_text (hruntime : runtime.Free stem) (t : String) (es : List (Entry Code)) :
    (block runtime (.text t :: es)).numbered stem = (block runtime es).numbered stem := by
  have hitems : items runtime (.text t :: es) = leaf runtime t :: items runtime es := rfl
  rw [numbered_block hruntime, numbered_block hruntime, hitems, List.flatMap_cons,
    numbered_leaf hruntime]
  rfl

theorem numbered_block_effect (hruntime : runtime.Free stem) {c : Code} (hc : c.Free stem)
    (es : List (Entry Code)) :
    (block runtime (.effect c :: es)).numbered stem = (block runtime es).numbered stem := by
  have hsteps : steps runtime (.effect c :: es) = effect c ++ steps runtime es := rfl
  rw [numbered_block hruntime, numbered_block hruntime, hsteps, numbered_append, numbered_effect,
    hc.numbered_eq_nil]
  rfl

/-- The name of a value stands in its statement and in its item. -/
theorem numbered_block_value (hruntime : runtime.Free stem) (k : Nat) (e : Code)
    (es : List (Entry Code)) :
    ((block runtime (.value (.numbered stem k) e :: es)).numbered stem).Perm
      ((Ident.numbered stem k).name :: (Ident.numbered stem k).name ::
        (e.numbered stem ++ (block runtime es).numbered stem)) := by
  have hid := Ident.isNumbered_numbered stem k
  have hitem : Code.numbered stem [.word (Ident.numbered stem k).name] =
      [(Ident.numbered stem k).name] := List.filter_cons_of_pos hid
  rw [numbered_block hruntime, numbered_block hruntime, steps_value, items_value, numbered_append,
    numbered_binding hruntime hid, List.flatMap_cons, hitem, List.singleton_append]
  refine List.perm_middle.trans ?_
  rw [List.cons_append, List.cons_append, List.append_assoc]

theorem numbered_block_append (hruntime : runtime.Free stem) (front back : List (Entry Code)) :
    ((block runtime (front ++ back)).numbered stem).Perm
      ((block runtime front).numbered stem ++ (block runtime back).numbered stem) := by
  rw [numbered_block hruntime, numbered_block hruntime, numbered_block hruntime, steps_append,
    items_append, numbered_append, List.flatMap_append, List.append_assoc, List.append_assoc]
  exact (List.perm_append_comm_assoc _ _ _).append_left _

/-- How often a name stands in a block, counted at one of its values. -/
theorem count_block_value (hruntime : runtime.Free stem) (k : Nat) (e : Code)
    (front back : List (Entry Code)) (id : String) :
    ((block runtime (front ++ .value (.numbered stem k) e :: back)).numbered stem).count id =
      ((block runtime front).numbered stem).count id +
        (((Ident.numbered stem k).name :: (Ident.numbered stem k).name ::
          e.numbered stem).count id + ((block runtime back).numbered stem).count id) := by
  rw [(numbered_block_append hruntime _ _).count_eq, List.count_append,
    (numbered_block_value hruntime k e back).count_eq, ← List.cons_append, ← List.cons_append,
    List.count_append]

/-- A statement of a value splits the statements of a block. -/
theorem steps_split (runtime : Code) (front back : List (Entry Code)) (id : Ident) (e : Code) :
    steps runtime (front ++ .value id e :: back) =
      steps runtime front ++ binding runtime (.word id.name) e ++ steps runtime back := by
  rw [steps_append, steps_value, List.append_assoc]

variable (runtime stem) in
/-- Entries that own their names one after the other. -/
inductive Owned : Nat → Nat → List (Entry Code) → Prop
  | nil (n : Nat) : Owned n n []
  | text (t : String) {m n : Nat} {es : List (Entry Code)} (h : Owned m n es) :
    Owned m n (.text t :: es)
  | effect {c : Code} (hc : c.Free stem) {m n : Nat} {es : List (Entry Code)} (h : Owned m n es) :
    Owned m n (.effect c :: es)
  | value {e : Code} {m k n : Nat} {es : List (Entry Code)} (he : Owns runtime stem m k e)
    (h : Owned (k + 1) n es) : Owned m n (.value (.numbered stem k) e :: es)

namespace Owned

theorem le (h : Owned runtime stem m n es) : m ≤ n := by
  induction h with
  | nil n => exact Nat.le_refl n
  | text t _ ih => exact ih
  | effect _ _ ih => exact ih
  | value he _ ih => exact Nat.le_trans he.le (Nat.le_of_succ_le ih)

theorem append (hf : Owned runtime stem l m front) (hb : Owned runtime stem m n back) :
    Owned runtime stem l n (front ++ back) := by
  induction hf with
  | nil n => exact hb
  | text t _ ih => exact (ih hb).text t
  | effect hc _ ih => exact (ih hb).effect hc
  | value he _ ih => exact .value he (ih hb)

/-- A number between the bounds belongs to one of the values: it is that of its name, or that of a
name in its code. -/
theorem split (h : Owned runtime stem m n es) {j : Nat} (hm : m ≤ j) (hn : j < n) :
    ∃ front e back a k, es = front ++ .value (.numbered stem k) e :: back ∧
      Owned runtime stem m a front ∧ Owns runtime stem a k e ∧ Owned runtime stem (k + 1) n back ∧
      a ≤ j ∧ j ≤ k := by
  -- The names in the code of a value are given before its own, so the first value with a number
  -- that is not smaller is the one.
  induction h with
  | nil n => omega
  | text t _ ih =>
    obtain ⟨front, e, back, a, k, rfl, hf, he, hb, ha, hk⟩ := ih hm hn
    exact ⟨.text t :: front, e, back, a, k, rfl, hf.text t, he, hb, ha, hk⟩
  | @effect c hc _ _ _ _ ih =>
    obtain ⟨front, e, back, a, k, rfl, hf, he, hb, ha, hk⟩ := ih hm hn
    exact ⟨.effect c :: front, e, back, a, k, rfl, hf.effect hc, he, hb, ha, hk⟩
  | @value e m k n es he hes ih =>
    rcases Nat.lt_or_ge k j with hj | hj
    · obtain ⟨front, e', back, a, k', rfl, hf, he', hb, ha, hk⟩ := ih hj hn
      exact ⟨.value (.numbered stem k) e :: front, e', back, a, k', rfl, .value he hf, he', hb, ha,
        hk⟩
    · exact ⟨[], e, es, m, k, rfl, .nil m, he, hes, hm, hj⟩

/-- The names in the block of the entries have their numbers. -/
theorem bounded (hruntime : runtime.Free stem) (h : Owned runtime stem m n es) :
    ∀ id ∈ (block runtime es).numbered stem,
      ∃ k, m ≤ k ∧ k < n ∧ id = (Ident.numbered stem k).name := by
  intro id hid
  induction h with
  | nil n =>
    rw [numbered_block_nil hruntime] at hid
    exact absurd hid List.not_mem_nil
  | text t _ ih => exact ih (numbered_block_text hruntime t _ ▸ hid)
  | effect hc _ ih => exact ih (numbered_block_effect hruntime hc _ ▸ hid)
  | @value e m k n es he hes ih =>
    have hk : k < n := hes.le
    rw [(numbered_block_value hruntime k e es).mem_iff] at hid
    simp only [List.mem_cons, List.mem_append] at hid
    rcases hid with rfl | rfl | hid | hid
    · exact ⟨k, he.le, hk, rfl⟩
    · exact ⟨k, he.le, hk, rfl⟩
    · obtain ⟨j, hm, hj, rfl⟩ := he.bounded id hid
      exact ⟨j, hm, Nat.lt_trans hj hk, rfl⟩
    · obtain ⟨j, hj, hn, rfl⟩ := ih hid
      exact ⟨j, Nat.le_trans he.le (Nat.le_of_succ_le hj), hn, rfl⟩

/-- Names with other numbers do not stand in the block. -/
theorem count_eq_zero (hruntime : runtime.Free stem) (h : Owned runtime stem m n es) {j : Nat}
    (hj : j < m ∨ n ≤ j) :
    ((block runtime es).numbered stem).count (Ident.numbered stem j).name = 0 := by
  rw [List.count_eq_zero]
  intro hmem
  obtain ⟨k, hm, hn, hk⟩ := h.bounded hruntime _ hmem
  have := Ident.name_numbered_inj.1 hk
  omega

/-- The statements of the entries declare their names. -/
theorem declared (hruntime : runtime.Free stem) (h : Owned runtime stem m n es) {tail : Code}
    (htail : tail.numberedDeclared stem = []) :
    ((steps runtime es ++ tail).numberedDeclared stem).Perm (Ident.between stem m n) := by
  induction h with
  | nil n =>
    show (tail.numberedDeclared stem).Perm _
    rw [htail, Ident.between_self]
  | text t _ ih => exact ih
  | @effect c hc m n es _ ih =>
    have hsteps : steps runtime (.effect c :: es) = Emit.effect c ++ steps runtime es := rfl
    rw [hsteps, List.append_assoc, numberedDeclared_effect, hc.numberedDeclared_eq_nil]
    exact ih
  | @value e m k n es he hes ih =>
    have hid := Ident.isNumbered_numbered stem k
    have hexpr : (Ident.between stem m (k + 1)).Perm
        ((Ident.numbered stem k).name :: e.numberedDeclared stem) := by
      rw [← Ident.between_append stem he.le (Nat.le_succ k), Ident.between_succ]
      exact (List.perm_append_singleton _ _).trans (he.declared.symm.cons _)
    rw [steps_value, List.append_assoc, numberedDeclared_binding hruntime hid,
      ← Ident.between_append stem (Nat.le_succ_of_le he.le) hes.le]
    exact (hexpr.append ih.symm).symm

/-- The items of a block declare nothing. -/
theorem numberedDeclared_items (hruntime : runtime.Free stem) (h : Owned runtime stem m n es) :
    ∀ item ∈ items runtime es, item.numberedDeclared stem = [] := by
  induction h with
  | nil n => exact fun _ hitem => absurd hitem List.not_mem_nil
  | text t _ ih =>
    refine List.forall_mem_cons.2 ⟨?_, ih⟩
    exact Free.numberedDeclared_eq_nil (free_of_numbered_eq_nil (numbered_leaf hruntime t))
  | effect _ _ ih => exact ih
  | value _ _ ih =>
    refine List.forall_mem_cons.2 ⟨?_, ih⟩
    exact numberedDeclared_word_cons
      (Ident.ne_of_isNumbered (Ident.isNumbered_numbered stem _) (by decide))

/-- The name of a value is in scope in the block of its entry: it stands in none of the others. -/
theorem scopes_value (hruntime : runtime.Free stem) {a k : Nat} {e : Code}
    (hf : Owned runtime stem m a front) (he : Owns runtime stem a k e)
    (hb : Owned runtime stem (k + 1) n back) :
    Scopes runtime (Ident.numbered stem k).name
      (Emit.block runtime (front ++ .value (.numbered stem k) e :: back)) := by
  have hid := Ident.isNumbered_numbered stem k
  have hfront := hf.count_eq_zero hruntime (.inr he.le)
  have hback := hb.count_eq_zero hruntime (.inl (Nat.lt_succ_self k))
  refine .value (steps runtime front) e (steps runtime back)
    (items runtime (front ++ .value (.numbered stem k) e :: back)) ?_ ?_ ?_ ?_
  case refine_1 =>
    rw [block_eq, steps_split]
    exact List.mem_cons_self
  case refine_2 =>
    rw [items_append, items_value]
    exact List.mem_append_right _ List.mem_cons_self
  case refine_3 =>
    rw [numbered_block hruntime, List.count_append, Nat.add_eq_zero_iff] at hfront
    rw [← List.count_eq_zero, count_words hid]
    exact hfront.1
  case refine_4 =>
    rw [count_words hid, count_block_value hruntime, hfront, hback, List.count_cons_self,
      List.count_cons_self, he.count_eq_zero (.inr (Nat.le_refl k))]

/-- A name that is in scope in the code of a value is so in the block of its entry. -/
theorem scopes_expr (hruntime : runtime.Free stem) {a j k : Nat} {e : Code}
    (hf : Owned runtime stem m a front) (he : Owns runtime stem a k e)
    (hb : Owned runtime stem (k + 1) n back) (ha : a ≤ j) (hk : j < k) :
    Scopes runtime (Ident.numbered stem j).name
      (Emit.block runtime (front ++ .value (.numbered stem k) e :: back)) := by
  have hid := Ident.isNumbered_numbered stem j
  have hne : (Ident.numbered stem k).name ≠ (Ident.numbered stem j).name :=
    fun h => Nat.ne_of_gt hk (Ident.name_numbered_inj.1 h)
  refine (he.scopes j ha hk).mono ?_ ?_
  · intro b hblock
    rw [block_eq, steps_split]
    simp [binding, call, hblock]
  · rw [count_words hid, count_block_value hruntime, hf.count_eq_zero hruntime (.inr ha),
      hb.count_eq_zero hruntime (.inl (Nat.lt_succ_of_lt hk)), List.count_cons_of_ne hne,
      List.count_cons_of_ne hne, Nat.zero_add, Nat.add_zero, count_words hid]

/-- **A block owns the names of its entries.** -/
theorem block (hruntime : runtime.Free stem) (h : Owned runtime stem m n es) :
    Owns runtime stem m n (Emit.block runtime es) := by
  constructor
  case le => exact h.le
  case declared =>
    have hlist := numberedDeclared_list hruntime (h.numberedDeclared_items hruntime)
    rw [block_eq, numberedDeclared_group_cons]
    exact (List.append_nil _).symm ▸ h.declared hruntime hlist
  case bounded => exact h.bounded hruntime
  case scopes =>
    intro j hm hn
    obtain ⟨front, e, back, a, k, rfl, hf, he, hb, ha, hk⟩ := h.split hm hn
    rcases Nat.eq_or_lt_of_le hk with rfl | hk
    · exact scopes_value hruntime hf he hb
    · exact scopes_expr hruntime hf he hb ha hk

end Owned

end Emit

/-! ## Nodes -/

section

open Code Emit

variable {runtime : Code} {stem : String}

mutual

/-- What a node adds to a block owns the names that the node takes. -/
theorem owned_direct (hruntime : runtime.Free stem) (n : Nat) (node : Node)
    (h : ∀ c ∈ node.codes, Free stem c) :
    Owned runtime stem n (n + node.nameCount) (node.direct runtime stem n) := by
  match node with
  | .text t => exact (Owned.nil n).text t
  | .chunk .output c => exact .value (.of_free (h c List.mem_cons_self) n) (.nil (n + 1))
  | .chunk .effect c => exact (Owned.nil n).effect (h c List.mem_cons_self)
  | .chunk (.other tag) c =>
    rw [Node.codes] at h
    rw [Node.direct]
    split
    · exact .nil n
    · next ht =>
      rw [if_neg ht] at h
      exact (Owned.nil n).effect (h c List.mem_cons_self)
  | .choice condition body rest =>
    rw [Node.codes, List.forall_mem_cons, List.forall_mem_append] at h
    obtain ⟨hcondition, hbody, hrest⟩ := h
    have hchoice := Owns.choice hcondition ((owned_directAll hruntime n body hbody).block hruntime)
      (owns_direct hruntime (n + Node.nameCountAll body) rest hrest)
    have hn : n + (Node.choice condition body rest).nameCount =
        n + Node.nameCountAll body + rest.nameCount + 1 := by
      rw [Node.nameCount]
      omega
    rw [hn]
    exact .value hchoice (.nil _)
  | .loop pattern iterator body =>
    rw [Node.codes, List.forall_mem_cons, List.forall_mem_cons] at h
    obtain ⟨hpattern, hiterator, hbody⟩ := h
    have hloop := Owns.loop hruntime hpattern hiterator
      ((owned_directAll hruntime (n + 1) body hbody).block hruntime)
    have hn : n + (Node.loop pattern iterator body).nameCount =
        n + 1 + Node.nameCountAll body + 1 := by
      rw [Node.nameCount]
      omega
    rw [hn]
    exact .value hloop (.nil _)

/-- What nodes add to a block owns the names that the nodes take. -/
theorem owned_directAll (hruntime : runtime.Free stem) (n : Nat) (nodes : List Node)
    (h : ∀ c ∈ Node.allCodes nodes, Free stem c) :
    Owned runtime stem n (n + Node.nameCountAll nodes) (Node.directAll runtime stem n nodes) := by
  match nodes with
  | [] => exact .nil n
  | node :: rest =>
    rw [Node.allCodes, List.forall_mem_append] at h
    rw [Node.nameCountAll, ← Nat.add_assoc]
    have hnode := owned_direct hruntime n node h.1
    exact hnode.append (owned_directAll hruntime (n + node.nameCount) rest h.2)

theorem owns_direct (hruntime : runtime.Free stem) (n : Nat) (rest : Alternative)
    (h : ∀ c ∈ rest.codes, Free stem c) :
    Owns runtime stem n (n + rest.nameCount) (rest.direct runtime stem n) := by
  match rest with
  | .nothing => exact .of_free (free_of_numbered_eq_nil (numbered_emitEmpty hruntime)) n
  | .otherwise body => exact (owned_directAll hruntime n body h).block hruntime
  | .elseIf condition body rest =>
    rw [Alternative.codes, List.forall_mem_cons, List.forall_mem_append] at h
    obtain ⟨hcondition, hbody, hrest⟩ := h
    rw [Alternative.nameCount, ← Nat.add_assoc]
    exact Owns.choice hcondition ((owned_directAll hruntime n body hbody).block hruntime)
      (owns_direct hruntime (n + Node.nameCountAll body) rest hrest)

end

end

/-! ## Templates -/

/-- **Generated names are declared once and used in scope.** If the names with the stem and a number
are identifiers, and neither the path of the runtime nor the code in the nodes has such names, then
the code of the nodes declares as many of them as the nodes take, the first ones, once each. The
name of a value is used once, as an item of the list that ends the block of its declaration; the
name of the list of a loop is used twice, in the block that begins with its declaration. -/
theorem Template.scopes_of_compile (runtime : Code) (options : Options) (nodes : List Node)
    (hnames : ∀ n, Word.isPlain (Ident.numbered options.stem n).name.toList = true)
    (hruntime : runtime.Free options.stem)
    (hcodes : ∀ c ∈ Node.allCodes nodes, c.Free options.stem) :
    ∃ code, compile runtime options nodes = .ok code ∧
      (code.numberedDeclared options.stem).Perm
        ((List.range (Node.nameCountAll nodes)).map fun k =>
          (Ident.numbered options.stem k).name) ∧
      ∀ k < Node.nameCountAll nodes,
        Code.Scopes runtime (Ident.numbered options.stem k).name code := by
  have howns : Code.Owns runtime options.stem 0 (Node.nameCountAll nodes)
      (Emit.block runtime (Node.directAll runtime options.stem 0 nodes)) := by
    have howned := (owned_directAll hruntime 0 nodes hcodes).block hruntime
    rwa [Nat.zero_add] at howned
  refine ⟨_, compile_eq_direct runtime options nodes hnames, ?_, ?_⟩
  · have hdeclared := howns.declared
    rwa [Ident.between, Nat.sub_zero, ← List.range_eq_range'] at hdeclared
  · exact fun k hk => howns.scopes k (Nat.zero_le k) hk

/-- A loop in a choice: the list of the loop has the first name, the choice the last. -/
theorem Template.scopes_of_compile_sample :
    (∀ n, Word.isPlain (Ident.numbered Options.standard.stem n).name.toList = true) ∧
      Emit.defaultRuntime.Free Options.standard.stem ∧
      (∀ c ∈ Node.allCodes Node.sample, c.Free Options.standard.stem) ∧
      ∃ code, compile Emit.defaultRuntime .standard Node.sample = .ok code ∧
        (code.numberedDeclared "arg").Perm ["arg0", "arg1", "arg2", "arg3"] ∧
        ∀ k < 4, Code.Scopes Emit.defaultRuntime (Ident.numbered "arg" k).name code := by
  have hnames : ∀ n, Word.isPlain (Ident.numbered Options.standard.stem n).name.toList = true :=
    Ident.isPlain_numbered (by decide +kernel)
  have hruntime : Emit.defaultRuntime.Free Options.standard.stem := by decide +kernel
  have hcodes : ∀ c ∈ Node.allCodes Node.sample, c.Free Options.standard.stem := by decide +kernel
  exact ⟨hnames, hruntime, hcodes,
    scopes_of_compile Emit.defaultRuntime .standard Node.sample hnames hruntime hcodes⟩

end TextTemplate
