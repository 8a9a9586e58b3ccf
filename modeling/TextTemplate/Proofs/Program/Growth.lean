import TextTemplate.Proofs.Program.Entry
import TextTemplate.Program.State

/-!
# Compilations grow

No step of a compilation takes anything away: it adds entries to the block that is being filled, and
gives names.

- `Entry.Numbered`: the names of entries are different, and their numbers are in a range.
- `State.extend`: a state with more in its block and a later name.
- `text_eq_extend`, `value_eq_extend`, `effect_eq_extend`, `other_eq_extend`: the steps in this
  form.
- `finish_extend`: what is added between the beginning and the end of a block is that block; only
  the count is left behind.
-/

namespace TextTemplate

/-! ## Names of entries -/

namespace Entry

variable {ε : Type}

/-- The names of entries are different, and their numbers lie between two bounds. -/
structure Numbered (stem : String) (m n : Nat) (entries : List (Entry ε)) : Prop where
  le : m ≤ n
  nodup : (names entries).Nodup
  exists_number : ∀ id ∈ names entries, ∃ k, m ≤ k ∧ k < n ∧ id = .numbered stem k

namespace Numbered

variable {stem : String} {l m n : Nat}

/-- Entries without names need no numbers. -/
theorem of_names_eq_nil {entries : List (Entry ε)} (h : names entries = []) (hle : m ≤ n) :
    Numbered stem m n entries := by
  refine ⟨hle, ?_, ?_⟩
  · rw [h]
    exact List.nodup_nil
  · intro id hid
    rw [h] at hid
    exact absurd hid (by simp)

/-- A value takes the number before the upper bound. -/
theorem value (hle : m ≤ n) (e : ε) :
    Numbered stem m (n + 1) [Entry.value (.numbered stem n) e] := by
  refine ⟨Nat.le_succ_of_le hle, List.pairwise_singleton _ _, ?_⟩
  intro id hid
  exact ⟨n, hle, Nat.lt_succ_self n, List.mem_singleton.1 hid⟩

/-- Entries that follow others take later numbers. -/
theorem append {front back : List (Entry ε)} (hf : Numbered stem l m front)
    (hb : Numbered stem m n back) : Numbered stem l n (front ++ back) := by
  refine ⟨Nat.le_trans hf.le hb.le, ?_, ?_⟩
  · rw [names_append, List.nodup_append]
    refine ⟨hf.nodup, hb.nodup, ?_⟩
    rintro id hid other hother rfl
    obtain ⟨i, -, hi, rfl⟩ := hf.exists_number id hid
    obtain ⟨k, hk, -, he⟩ := hb.exists_number _ hother
    have := Ident.numbered_injective stem he
    omega
  · intro id hid
    rw [names_append, List.mem_append] at hid
    rcases hid with hid | hid
    · obtain ⟨k, hl, hk, he⟩ := hf.exists_number id hid
      exact ⟨k, hl, Nat.lt_of_lt_of_le hk hb.le, he⟩
    · obtain ⟨k, hl, hk, he⟩ := hb.exists_number id hid
      exact ⟨k, Nat.le_trans hf.le hl, hk, he⟩

end Numbered

end Entry

/-! ## Steps of a compilation -/

namespace State

variable {ε : Type}

/-- The state after entries have been added, of which the next name has the given number. -/
def extend (s : State ε) (entries : List (Entry ε)) (n : Nat) : State ε :=
  { s with scope := s.scope ++ Block.ofEntries entries, counter := n }

@[simp] theorem scope_extend (s : State ε) (entries : List (Entry ε)) (n : Nat) :
    (s.extend entries n).scope = s.scope ++ Block.ofEntries entries := rfl

@[simp] theorem counter_extend (s : State ε) (entries : List (Entry ε)) (n : Nat) :
    (s.extend entries n).counter = n := rfl

@[simp] theorem options_extend (s : State ε) (entries : List (Entry ε)) (n : Nat) :
    (s.extend entries n).options = s.options := rfl

@[simp] theorem fallback_extend (s : State ε) (entries : List (Entry ε)) (n : Nat) :
    (s.extend entries n).fallback = s.fallback := rfl

/-- Adding nothing and giving no name changes nothing. -/
theorem extend_nil (s : State ε) : s.extend [] s.counter = s := by
  show { s with scope := s.scope ++ Block.empty } = s
  rw [Block.append_empty]

/-- Entries may be added in portions. -/
theorem extend_extend (s : State ε) (front back : List (Entry ε)) (m n : Nat) :
    (s.extend front m).extend back n = s.extend (front ++ back) n := by
  show { s with
    scope := s.scope ++ Block.ofEntries front ++ Block.ofEntries back
    counter := n } = _
  rw [Block.append_assoc, ← Block.ofEntries_append]
  rfl

theorem text_eq_extend (s : State ε) (t : String) :
    s.text t = s.extend [.text t] s.counter := by
  show { s with scope := s.scope.addFragment (.text t) } = _
  rw [Block.addFragment_eq_append]
  rfl

theorem effect_eq_extend (s : State ε) (e : ε) :
    s.expression .effect e = s.extend [.effect e] s.counter := by
  show { s with scope := s.scope.addStatement (.effect e) } = _
  rw [Block.addStatement_eq_append]
  rfl

/-- Without another fallback, remarks are dropped and all other tags are effects. -/
theorem other_eq_extend (s : State ε) (tag : String) (e : ε) (h : s.fallback = .standard) :
    s.expression (.other tag) e =
      s.extend (if isComment tag then [] else [.effect e]) s.counter := by
  have hs : s.fallback s.scope tag e = Fallback.standard s.scope tag e := by rw [h]
  show { s with scope := s.fallback s.scope tag e } = _
  rw [hs, Fallback.standard]
  split
  · exact s.extend_nil.symm
  · exact s.effect_eq_extend e

theorem value_eq_extend (s : State ε) (e : ε) :
    (s.value e).2 = s.extend [.value (.numbered s.options.stem s.counter) e] (s.counter + 1) := by
  show { s with
    scope := s.scope.addValue (.numbered s.options.stem s.counter) e
    counter := s.counter + 1 } = _
  rw [Block.addValue_eq_append]
  rfl

/-- What has been added since the beginning of a block is the block, and its names stay given. -/
theorem finish_extend (s : State ε) (entries : List (Entry ε)) (n : Nat) :
    (s.begin.2.extend entries n).finish s.begin.1 =
      (Block.ofEntries entries, s.extend [] n) := by
  show (Block.empty ++ Block.ofEntries entries, { s with counter := n }) = (_, { s with
    scope := s.scope ++ Block.empty
    counter := n })
  rw [Block.empty_append, Block.append_empty]

end State

end TextTemplate
