import TextTemplate.Program.Emit
import TextTemplate.Proofs.Program.Except

/-!
# The code of blocks with good names

Making code fails only for the sake of names. If all names are identifiers, the code of a block is
that of its statements and fragments, one after the other.

- `Ident.toToken_of_isPlain`: an identifier is a word of code.
- `Statement.code`, `Fragment.code`, `Block.code`: the code when names are words.
- `Block.emit_eq_code`: this is the code that is made.
- `Block.isPlain_of_emit`: if any code is made, names are words.
-/

namespace TextTemplate

namespace Ident

/-- All letters come after the digits. -/
theorem isIdentifierStart_of_le {c : Char} (h : c ≤ '9') : Text.isIdentifierStart c = false := by
  have hc : c.toNat ≤ 57 := h
  have hlow : (c == '_') = false := by
    refine beq_false_of_ne ?_
    rintro rfl
    exact absurd hc (by decide)
  have hcontains : Text.identifierStartRanges.contains c = false := by
    rw [Text.identifierStartRanges, Text.Ranges.contains_cons, if_pos (by omega)]
  rw [Text.isIdentifierStart, hlow, hcontains, Bool.false_or]

/-- No digit begins a word. -/
theorem isDecimal_of_isIdentifierStart {c : Char} (h : Text.isIdentifierStart c = true) :
    Number.isDecimal c = false := by
  have h₉ : ¬ c ≤ '9' := by
    intro hc
    rw [isIdentifierStart_of_le hc] at h
    cases h
  have hdigit : ∀ n, Number.digit? c = some n → ¬ n < 10 := by
    intro n hn
    unfold Number.digit? at hn
    split at hn
    · rename_i hc
      exact absurd (of_decide_eq_true (Bool.and_eq_true _ _ ▸ hc).2) h₉
    · split at hn
      · cases hn
        omega
      · split at hn
        · cases hn
          omega
        · cases hn
  rw [Number.isDecimal, Number.isDigitOf]
  cases hc : Number.digit? c with
  | none => rfl
  | some n => exact decide_eq_false (hdigit n hc)

/-- An identifier is the word of its name. -/
theorem toToken_of_isPlain {id : Ident} (h : Word.isPlain id.name.toList = true) :
    id.toToken = .ok (.word id.name) := by
  have hd : id.name.toList.all Number.isDecimal = false := by
    revert h
    cases id.name.toList with
    | nil => exact nofun
    | cons c s =>
      intro h
      rw [Word.isPlain, Bool.and_eq_true] at h
      rw [List.all_cons, isDecimal_of_isIdentifierStart h.1, Bool.false_and]
  rw [toToken, hd, if_neg Bool.false_ne_true, if_pos h]

/-- The word of an identifier is its name. -/
theorem isPlain_of_toToken {id : Ident} {t : Token} (h : id.toToken = .ok t) :
    Word.isPlain id.name.toList = true := by
  unfold toToken at h
  split at h
  · cases h
  · split at h
    · assumption
    · cases h

/-- Digits continue a word. -/
theorem isIdentifierContinue_of_isDigit {c : Char} (h : c.isDigit = true) :
    Text.isIdentifierContinue c = true := by
  obtain ⟨h₀, h₉⟩ : 48 ≤ c.toNat ∧ c.toNat ≤ 57 := Char.isDigit_iff_toNat.1 h
  rw [Text.isIdentifierContinue, Text.identifierContinueRanges, Text.Ranges.contains_cons,
    if_neg (by omega), if_pos h₉]

/-- No digit begins a word. -/
theorem isPlain_digits (n : Nat) : Word.isPlain (toString n).toList = false := by
  have hdigit : ∀ c ∈ (toString n).toList, c ≤ '9' := by
    intro c hc
    rw [Nat.toString_eq_repr, Nat.toList_repr] at hc
    have h := Char.isDigit_iff_toNat.1 (Nat.isDigit_of_mem_toDigits (by decide) (by decide) hc)
    exact h.2
  cases h : (toString n).toList with
  | nil => rfl
  | cons c s =>
    rw [h] at hdigit
    rw [Word.isPlain, isIdentifierStart_of_le (hdigit c List.mem_cons_self), Bool.false_and]

/-- Names with a stem that is an identifier are identifiers. -/
theorem isPlain_numbered {stem : String} (h : Word.isPlain stem.toList = true) (n : Nat) :
    Word.isPlain (numbered stem n).name.toList = true := by
  have hdigits : (toString n).toList.all Text.isIdentifierContinue = true := by
    rw [List.all_eq_true, Nat.toString_eq_repr, Nat.toList_repr]
    intro c hc
    exact isIdentifierContinue_of_isDigit (Nat.isDigit_of_mem_toDigits (by decide) (by decide) hc)
  rw [name_numbered, String.toList_append]
  revert h
  cases stem.toList with
  | nil => exact nofun
  | cons c s =>
    intro h
    rw [Word.isPlain, Bool.and_eq_true] at h
    rw [List.cons_append, Word.isPlain, List.all_append, h.1, h.2, hdigits]
    rfl

/-- Whether names with a stem are identifiers depends on the stem alone. -/
theorem isPlain_of_numbered {stem : String} {n : Nat}
    (h : Word.isPlain (numbered stem n).name.toList = true) : Word.isPlain stem.toList = true := by
  rw [name_numbered, String.toList_append] at h
  cases hstem : stem.toList with
  | nil =>
    rw [hstem, List.nil_append, isPlain_digits n] at h
    cases h
  | cons c s =>
    rw [hstem, List.cons_append, Word.isPlain, List.all_append, Bool.and_eq_true,
      Bool.and_eq_true] at h
    rw [Word.isPlain, h.1, h.2.1]
    rfl

end Ident

/-! ## Code -/

/-- The code of a fragment whose name is a word. -/
def Fragment.code (runtime : Code) : Fragment → Code
  | text s => Emit.leaf runtime s
  | ref id => [.word id.name]

/-- The code of a statement whose name is a word. -/
def Statement.code (runtime : Code) : Statement Code → Code
  | bind id e => Emit.binding runtime (.word id.name) e
  | effect e => Emit.effect e

namespace Block

/-- The code inside of a block whose names are words. -/
def code (runtime : Code) (b : Block Code) : Code :=
  b.statements.flatMap (Statement.code runtime) ++
    Emit.list runtime (b.fragments.map (Fragment.code runtime))

/-- **Code is made from a block** whose names are words. -/
theorem emit_eq_code (runtime : Code) (b : Block Code)
    (h : ∀ id ∈ b.bindings ++ b.references, id.toToken = .ok (.word id.name)) :
    b.emit runtime = .ok [.group .brace (b.code runtime)] := by
  have hs : b.statements.mapM (Emit.statement runtime) =
      .ok (b.statements.map (Statement.code runtime)) := by
    apply mapM_eq_ok
    intro s hs
    cases s with
    | effect e => rfl
    | bind id e =>
      have hid : id ∈ b.bindings := List.mem_filterMap.2 ⟨_, hs, rfl⟩
      rw [Emit.statement, h id (List.mem_append_left _ hid)]
      rfl
  have hf : b.fragments.mapM (Emit.fragment runtime) =
      .ok (b.fragments.map (Fragment.code runtime)) := by
    apply mapM_eq_ok
    intro f hf
    cases f with
    | text s => rfl
    | ref id =>
      have hid : id ∈ b.references := List.mem_filterMap.2 ⟨_, hf, rfl⟩
      rw [Emit.fragment, h id (List.mem_append_right _ hid)]
      rfl
  rw [emit, hs, hf]
  show Except.ok [Token.group .brace ((b.statements.map (Statement.code runtime)).flatten ++ _)] = _
  rfl

/-- **Code is made only from a block** whose names are words. -/
theorem isPlain_of_emit {runtime code : Code} {b : Block Code} (h : b.emit runtime = .ok code) :
    ∀ id ∈ b.bindings ++ b.references, Word.isPlain id.name.toList = true := by
  obtain ⟨statements, hs, h⟩ := bind_eq_ok_iff.1 h
  obtain ⟨fragments, hf, -⟩ := bind_eq_ok_iff.1 h
  have hword {id : Ident} {f : Token → Code} {c : Code} (h : id.toToken.map f = .ok c) :
      Word.isPlain id.name.toList = true := by
    cases hid : id.toToken with
    | error e =>
      rw [hid] at h
      cases h
    | ok t => exact Ident.isPlain_of_toToken hid
  refine List.forall_mem_append.2 ⟨fun id hid => ?_, fun id hid => ?_⟩
  · obtain ⟨s, hmem, hid⟩ := List.mem_filterMap.1 hid
    obtain ⟨c, hc⟩ := exists_of_mapM hs s hmem
    cases s with
    | effect e => cases hid
    | bind id' e =>
      cases hid
      exact hword hc
  · obtain ⟨f, hmem, hid⟩ := List.mem_filterMap.1 hid
    obtain ⟨c, hc⟩ := exists_of_mapM hf f hmem
    cases f with
    | text s => cases hid
    | ref id' =>
      cases hid
      exact hword hc

end Block

end TextTemplate
