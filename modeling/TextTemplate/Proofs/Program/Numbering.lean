import Mathlib.Data.List.Induction
import TextTemplate.Proofs.Program.Chunks
import TextTemplate.Proofs.Program.Renaming

/-!
# How chunks are numbered

The compiler fills two lists and counts names on the way. What it gives for a list of chunks can be
read off the chunks: each has its own part in the program, and the number of the values before it is
all that this part takes over from other chunks.

- `Ident.shift`: a name with a later number; `Entry.rename`, `Statement.rename`, `Block.rename`.
- `Chunk.isRemark`, `Chunk.ranked`: chunks that leave nothing, and chunks with their numbers.
- `Chunk.statement?`, `Chunk.fragment?`: the part of a chunk in a program.
- `entries_append`, `entries_shift`: chunks after others only have later names.
- `ofEntries_entries_ranked`: the program of chunks is made of their parts.
- `entries_singleton_eq_nil_iff`: a chunk leaves nothing exactly if it is a remark.
- `entries_filter`, `entries_eq_nil_iff`: so remarks may be left out.
- `compile_append_renamed`: the main statement.
-/

namespace TextTemplate

/-! ## Later names -/

namespace Ident

/-- The name with a later number. A name that is not made with the stem stays as it is. -/
def shift (stem : String) (n : Nat) (id : Ident) : Ident :=
  match id.number? stem with
  | some i => numbered stem (n + i)
  | none => id

theorem shift_numbered (stem : String) (n i : Nat) :
    (numbered stem i).shift stem n = numbered stem (n + i) := by
  rw [shift, number?_numbered]

end Ident

section

variable {ε : Type} (f : Ident → Ident)

/-- The statement with another name for its value. -/
def Statement.rename : Statement ε → Statement ε
  | .bind id e => .bind (f id) e
  | .effect e => .effect e

/-- The block with other names for its values. -/
def Block.rename (b : Block ε) : Block ε :=
  ⟨b.statements.map (.rename f), b.fragments.map (.rename f)⟩

/-- The entry with another name for its value. -/
def Entry.rename : Entry ε → Entry ε
  | .text s => .text s
  | .value id e => .value (f id) e
  | .effect e => .effect e

theorem Block.rename_append (a b : Block ε) :
    (a ++ b).rename f = a.rename f ++ b.rename f :=
  Block.ext List.map_append List.map_append

/-- Entries with other names are a block with other names. -/
theorem Block.ofEntries_rename (entries : List (Entry ε)) :
    ofEntries (entries.map (.rename f)) = (ofEntries entries).rename f := by
  induction entries with
  | nil => rfl
  | cons e rest ih =>
    have he : (e.rename f).block = e.block.rename f := by cases e <;> rfl
    rw [List.map_cons, ofEntries_cons, ofEntries_cons, ih, he, rename_append]

end

theorem Block.ofEntries_eq_empty_iff {ε : Type} (entries : List (Entry ε)) :
    ofEntries entries = empty ↔ entries = [] := by
  constructor
  · intro h
    -- Every entry has a statement or a fragment.
    cases entries with
    | nil => rfl
    | cons e rest =>
      cases e with
      | text s => exact absurd (congrArg Block.fragments h) (List.cons_ne_nil _ _)
      | value id e => exact absurd (congrArg Block.statements h) (List.cons_ne_nil _ _)
      | effect e => exact absurd (congrArg Block.statements h) (List.cons_ne_nil _ _)
  · rintro rfl
    rfl

/-! ## Chunks -/

namespace Chunk

variable {ε : Type}

/-- Whether a chunk is a remark, which its tag says. -/
def isRemark : Chunk ε → Bool
  | .expression (.other tag) _ => tag == "#" || tag == "comment"
  | .text _ | .expression .output _ | .expression .effect _ => false

/-- Each chunk with the number of the values before it. -/
def ranked (chunks : List (Chunk ε)) : List (Nat × Chunk ε) :=
  chunks.mapIdx fun i c => ((chunks.take i).countP isOutput, c)

/-- The fragment of a chunk: a text is one, and a value is mentioned under its number. -/
def fragment? (stem : String) : Nat × Chunk ε → Option Fragment
  | (_, .text s) => some (.text s)
  | (k, .expression .output _) => some (.ref (.numbered stem k))
  | (_, .expression .effect _) | (_, .expression (.other _) _) => none

/-- The statement of a chunk: a value is bound to its number, and everything else that is no text
and no remark is an effect. -/
def statement? (stem : String) : Nat × Chunk ε → Option (Statement ε)
  | (_, .text _) => none
  | (k, .expression .output e) => some (.bind (.numbered stem k) e)
  | (_, .expression .effect e) => some (.effect e)
  | (_, .expression (.other tag) e) =>
    if tag = "#" ∨ tag = "comment" then none else some (.effect e)

variable (stem : String) (n : Nat)

/-! ## Chunks after others -/

theorem entries_append (a b : List (Chunk ε)) :
    entries stem n (a ++ b) = entries stem n a ++ entries stem (n + a.countP isOutput) b := by
  induction a generalizing n with
  | nil => rfl
  | cons c rest ih =>
    rw [List.cons_append, entries_cons, ih, entries_cons stem n c rest, List.append_assoc,
      Nat.add_assoc, ← List.countP_append, List.singleton_append]

/-- Chunks that begin with a later number have the same entries with later names. -/
theorem entries_shift (m : Nat) (chunks : List (Chunk ε)) :
    entries stem (n + m) chunks = (entries stem m chunks).map (.rename (.shift stem n)) := by
  -- Only a value moves the number on, and it does so alike on both sides.
  induction chunks generalizing m with
  | nil => rfl
  | cons c rest ih =>
    match c with
    | .text s => rw [entries, entries, List.map_cons, ih, Entry.rename]
    | .expression .output e =>
      rw [entries, entries, List.map_cons, Nat.add_assoc, ih, Entry.rename, Ident.shift_numbered]
    | .expression .effect e => rw [entries, entries, List.map_cons, ih, Entry.rename]
    | .expression (.other tag) e =>
      rw [entries, entries]
      split
      · exact ih m
      · rw [List.map_cons, ih, Entry.rename]

/-- A program of chunks goes on with that of the others under later names. -/
theorem compile_append (a b : List (Chunk ε)) (options : Options) :
    compile (a ++ b) options = compile a options ++
      (compile b options).rename (.shift options.stem (a.countP isOutput)) := by
  have hshift := entries_shift options.stem (a.countP isOutput) 0 b
  rw [compile_eq_ofEntries, compile_eq_ofEntries, compile_eq_ofEntries, entries_append,
    Block.ofEntries_append, ← Block.ofEntries_rename, ← hshift, Nat.zero_add, Nat.add_zero]

/-! ## Chunks one by one -/

/-- The last chunk comes after all values before it. -/
theorem ranked_concat (a : List (Chunk ε)) (c : Chunk ε) :
    ranked (a ++ [c]) = ranked a ++ [(a.countP isOutput, c)] := by
  -- What stands before a chunk of the front is not changed by a chunk at the end.
  have hfront : a.mapIdx (fun i d => (((a ++ [c]).take i).countP isOutput, d)) = ranked a := by
    refine List.ext_getElem (by simp [ranked]) fun i hi _ => ?_
    have hlt : i ≤ a.length := by
      rw [List.length_mapIdx] at hi
      exact Nat.le_of_lt hi
    simp [ranked, List.take_append_of_le_length hlt]
  rw [ranked, List.mapIdx_concat, hfront, List.take_left]

/-- The entries of a chunk are its part in a program. -/
theorem ofEntries_entries_singleton (c : Chunk ε) :
    Block.ofEntries (entries stem n [c]) =
      ⟨(statement? stem (n, c)).toList, (fragment? stem (n, c)).toList⟩ := by
  match c with
  | .text s => rfl
  | .expression .output e => rfl
  | .expression .effect e => rfl
  | .expression (.other tag) e =>
    have hc : isComment tag = true ↔ tag = "#" ∨ tag = "comment" := by simp [isComment]
    by_cases h : tag = "#" ∨ tag = "comment"
    · rw [entries, if_pos (hc.2 h), statement?, if_pos h]
      rfl
    · rw [entries, if_neg (mt hc.1 h), statement?, if_neg h]
      rfl

/-- The program of chunks is made of the parts of all of them, in order. -/
theorem ofEntries_entries_ranked (chunks : List (Chunk ε)) :
    Block.ofEntries (entries stem 0 chunks) =
      ⟨(ranked chunks).filterMap (statement? stem),
        (ranked chunks).filterMap (fragment? stem)⟩ := by
  -- The last chunk is taken off, for only the chunks before it are counted.
  induction chunks using List.reverseRecOn with
  | nil => rfl
  | append_singleton a c ih =>
    rw [entries_append, Block.ofEntries_append, ih, Nat.zero_add, ofEntries_entries_singleton,
      ranked_concat, List.filterMap_append, List.filterMap_append]
    rfl

/-! ## Remarks -/

theorem entries_singleton_eq_nil_iff (c : Chunk ε) :
    entries stem n [c] = [] ↔ c.isRemark = true := by
  cases c with
  | text s => simp [entries, isRemark]
  | expression marker e =>
    cases marker with
    | output => simp [entries, isRemark]
    | effect => simp [entries, isRemark]
    | other tag =>
      have hc : isRemark (.expression (.other tag) e) = isComment tag := rfl
      by_cases h : isComment tag = true
      · simp [entries, hc, h]
      · simp [entries, hc, h]

/-- A remark takes no number. -/
theorem countP_of_isRemark {c : Chunk ε} (h : c.isRemark = true) : [c].countP isOutput = 0 := by
  cases c with
  | text s => cases h
  | expression marker e =>
    cases marker with
    | output => cases h
    | effect => cases h
    | other tag => rfl

/-- Without its remarks a list of chunks has the same entries. -/
theorem entries_filter (chunks : List (Chunk ε)) :
    entries stem n (chunks.filter fun c => !c.isRemark) = entries stem n chunks := by
  induction chunks generalizing n with
  | nil => rfl
  | cons c rest ih =>
    rw [entries_cons stem n c rest]
    by_cases h : c.isRemark = true
    · rw [List.filter_cons_of_neg (by simp [h]), ih, (entries_singleton_eq_nil_iff stem n c).2 h,
        countP_of_isRemark h, List.nil_append, Nat.add_zero]
    · rw [List.filter_cons_of_pos (by simp [h]), entries_cons, ih]

/-- Only remarks add nothing to a block. -/
theorem entries_eq_nil_iff (chunks : List (Chunk ε)) :
    entries stem n chunks = [] ↔ ∀ c ∈ chunks, c.isRemark = true := by
  induction chunks generalizing n with
  | nil => simp [entries]
  | cons c rest ih =>
    rw [entries_cons, List.append_eq_nil_iff, entries_singleton_eq_nil_iff, ih,
      List.forall_mem_cons]

/-- **Compiling puts programs one after the other, up to the numbers of their names.** What follows
other chunks has the program that it has alone, with names that go on after the values before it.
The program of chunks is made of their parts, in order: a fragment for each text and each value, and
a statement for each value and each effect. A value has the name with the number of the values that
are before it. Remarks have no part in the program, and everything else has one. -/
theorem compile_append_renamed (a b : List (Chunk ε)) (options : Options) :
    (∀ i, (Ident.numbered options.stem i).shift options.stem (a.countP isOutput) =
        .numbered options.stem (a.countP isOutput + i)) ∧
      compile (a ++ b) options = compile a options ++
        (compile b options).rename (.shift options.stem (a.countP isOutput)) ∧
      (compile a options).fragments = (ranked a).filterMap (fragment? options.stem) ∧
      (compile a options).statements = (ranked a).filterMap (statement? options.stem) ∧
      compile a options = compile (a.filter fun c => !c.isRemark) options ∧
      (compile a options = .empty ↔ ∀ c ∈ a, c.isRemark = true) := by
  have hparts := ofEntries_entries_ranked options.stem a
  refine ⟨Ident.shift_numbered options.stem _, compile_append a b options, ?_, ?_, ?_, ?_⟩
  · rw [compile_eq_ofEntries, hparts]
  · rw [compile_eq_ofEntries, hparts]
  · rw [compile_eq_ofEntries, compile_eq_ofEntries, entries_filter]
  · rw [compile_eq_ofEntries, Block.ofEntries_eq_empty_iff, entries_eq_nil_iff]

/-- Tags are no markers: neither `=` nor the empty tag makes a value. A remark takes no number. -/
example : compile [.text "", .expression .output 5, .expression (.other "=") 6,
      .expression (.other "#") 7, .expression (.other "") 8, .expression .output 9] .standard =
    ⟨[.bind ⟨"arg0"⟩ 5, .effect 6, .effect 8, .bind ⟨"arg1"⟩ 9],
      [.text "", .ref ⟨"arg0"⟩, .ref ⟨"arg1"⟩]⟩ := by
  decide

end Chunk

end TextTemplate
