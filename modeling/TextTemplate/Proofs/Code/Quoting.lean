import Mathlib.Tactic.SplitIfs
import TextTemplate.Code.Printer
import TextTemplate.Code.StringLiteral

/-!
# Quoted text reads back

A text that is put into code is written as a string literal. Reading that literal gives the text.

- `scalarDigits?_toDigits`: the number of a character, in hexadecimal digits.
- `body?_escape`, `body?_encode`: a written character, and the inside of a literal.
- `value?_quote`: the whole literal.
-/

namespace TextTemplate

namespace StringLiteral

open Text

/-! ## Numbers of characters -/

theorem digit?_digitChar : ∀ d < 16, Number.digit? (Nat.digitChar d) = some d := by decide

/-- The digits of a number are read back, unless there are too many of them. -/
theorem scalarDigits?_toDigits (n : Nat) (s : List Char) (h : (Nat.toDigits 16 n).length ≤ 6) :
    scalarDigits? 0 0 (Nat.toDigits 16 n ++ s) =
      scalarDigits? (Nat.toDigits 16 n).length n s := by
  by_cases hn : n < 16
  · rw [Nat.toDigits_of_lt_base hn, List.singleton_append, scalarDigits?, digit?_digitChar n hn]
    simp
  · have hdigits := Nat.toDigits_of_base_le (by decide) (Nat.le_of_not_lt hn)
    rw [hdigits, List.length_append, List.length_singleton] at h ⊢
    have hcount : ((Nat.toDigits 16 (n / 16)).length == 6) = false := beq_false_of_ne (by omega)
    rw [List.append_assoc, List.singleton_append,
      scalarDigits?_toDigits (n / 16) _ (Nat.le_of_succ_le h), scalarDigits?,
      digit?_digitChar _ (Nat.mod_lt n (by decide))]
    simp only [hcount, Nat.div_add_mod]
    rfl

theorem scalar?_toNat (c : Char) : scalar? c.toNat = some c := by
  have h : c.toNat.isValidChar := c.valid
  rw [scalar?, dif_pos h]
  exact congrArg some (Char.ext rfl)

/-- The number of a character in braces is read as the character. -/
theorem escape?_toDigits (c : Char) (s : List Char) :
    escape? .text ('u' :: '{' :: (Nat.toDigits 16 c.toNat ++ '}' :: s)) = some (c, s) := by
  have hlength : (Nat.toDigits 16 c.toNat).length ≤ 6 := by
    rw [Nat.length_toDigits_le_iff (by decide) (by decide)]
    rcases c.valid with h | ⟨-, h⟩ <;> exact Nat.lt_trans h (by decide)
  have hcount : ((Nat.toDigits 16 c.toNat).length == 0) = false :=
    beq_false_of_ne (Nat.ne_of_gt Nat.length_toDigits_pos)
  have hd : Number.digit? '}' = none := by decide
  rw [escape?, scalarDigits?_toDigits _ _ hlength, scalarDigits?, hd]
  simp [hcount, scalar?_toNat, Dialect.text]

/-! ## Texts -/

/-- An escape in a literal stands for its character. -/
theorem body?_backslash {c : Char} {s r : List Char} (hs : startsLineEnd s = false)
    (h : escape? .text s = some (c, r)) :
    body? .text ('\\' :: s) = (body? .text r).map fun (v, r) => (c :: v, r) := by
  rw [body?, hs, if_neg Bool.false_ne_true]
  split
  · rename_i c' s' h'
    rw [h] at h'
    cases h'
    rfl
  · rename_i h'
    rw [h] at h'
    cases h'

/-- A character as it is written is read as itself. -/
theorem body?_escape (c : Char) (s : List Char) :
    body? .text (escape c ++ s) = (body? .text s).map fun (v, r) => (c :: v, r) := by
  unfold escape
  split_ifs with h₀ ht hr hn hb hq hp
  · subst h₀
    exact body?_backslash rfl rfl
  · subst ht
    exact body?_backslash rfl rfl
  · subst hr
    exact body?_backslash rfl rfl
  · subst hn
    exact body?_backslash rfl rfl
  · subst hb
    exact body?_backslash rfl rfl
  · subst hq
    exact body?_backslash rfl rfl
  · show body? .text (c :: s) = _
    rw [body?]
    · rfl
    · exact hq
    · intro _ h _
      exact hr h
    · exact hr
    · exact hb
  · refine body?_backslash rfl ?_
    show escape? .text ('u' :: '{' :: (Nat.toDigits 16 c.toNat ++ ['}'] ++ s)) = _
    rw [List.append_assoc, List.singleton_append]
    exact escape?_toDigits c s

/-- The inside of a literal is read up to the quote after it. -/
theorem body?_encode (s r : List Char) : body? .text (encode s ++ '"' :: r) = some (s, r) := by
  induction s with
  | nil => rw [encode_nil, List.nil_append, body?]
  | cons c s ih =>
    have hc : body? .text (encode (c :: s) ++ '"' :: r) =
        (body? .text (encode s ++ '"' :: r)).map fun (v, r) => (c :: v, r) := by
      rw [encode, List.append_assoc]
      split
      · rename_i h
        obtain ⟨rfl, -⟩ : c = '\x00' ∧ startsOctal s = true := by simpa using h
        exact body?_backslash rfl rfl
      · exact body?_escape c _
    rw [hc, ih]
    rfl

/-- **A quoted text is a literal of that text.** -/
theorem value?_quote (s : String) : value? (quote s).toList = some s.toList := by
  rw [quote, String.toList_ofList, List.cons_append]
  show (body? .text (encode s.toList ++ ['"'])).map (·.1) = some s.toList
  rw [body?_encode]
  rfl

end StringLiteral

end TextTemplate
