import Mathlib.Data.List.TakeWhile
import Mathlib.Data.Nat.Digits.Defs
import TextTemplate.Proofs.Program.Written

/-!
# Integer literals

An integer is written as a run of digits of its base, with low lines among them. The front of the
text announces the base, and a word may follow as a suffix. Reading the literal gives the number
that the digits stand for.

- `Number.isPart`, `Number.valueIn`: the characters of a run and its value.
- `Number.Ends`: what ends a run.
- `Number.digits?_append`: a run is read to its end.
- `Number.IsInteger`, `Number.parts?_eq_some_iff`: the texts that are integer literals.
-/

namespace TextTemplate

namespace Number

/-! ## Runs of digits -/

/-- A digit of a base, or a low line. -/
def isPart (b : Nat) (c : Char) : Bool := isDigitOf b c || c == '_'

/-- The number that the digits of a run stand for, the first digit being the highest. -/
def valueIn (b : Nat) (run : List Char) : Nat := Nat.ofDigits b (run.filterMap digit?).reverse

theorem valueIn_cons_low (b : Nat) (run : List Char) : valueIn b ('_' :: run) = valueIn b run := rfl

theorem valueIn_cons {b d : Nat} {c : Char} (h : digit? c = some d) (run : List Char) :
    valueIn b (c :: run) = valueIn b run + b ^ (run.filterMap digit?).length * d := by
  rw [valueIn, List.filterMap_cons_some h, Nat.ofDigits_reverse_cons]
  rfl

/-- A digit of a base has a value below it. -/
theorem exists_of_isDigitOf {b : Nat} {c : Char} (h : isDigitOf b c = true) :
    ∃ d, digit? c = some d ∧ d < b := by
  rw [isDigitOf] at h
  cases hd : digit? c with
  | none =>
    rw [hd] at h
    cases h
  | some d =>
    rw [hd] at h
    exact ⟨d, rfl, of_decide_eq_true h⟩

/-- Of the characters that mean something else in base ten, none is one of its digits. -/
theorem isDigitOf_ten_letter {c : Char} (h : c = '.' ∨ c = 'e' ∨ c = 'E') :
    isDigitOf 10 c = false := by
  rcases h with rfl | rfl | rfl <;> rfl

/-- A digit is added to the number that was read before it. -/
theorem digits?_cons_digit {b d : Nat} {c : Char} (hd : digit? c = some d) (hlt : d < b)
    (seen : Bool) (n : Nat) (s : List Char) :
    digits? b seen n (c :: s) = digits? b true (n * b + d) s := by
  have hdigit : isDigitOf b c = true := by
    rw [isDigitOf, hd]
    exact decide_eq_true hlt
  have hlow : (c == '_') = false := by
    refine beq_false_of_ne ?_
    rintro rfl
    cases hd
  have hother (e : Char) (he : e = '.' ∨ e = 'e' ∨ e = 'E') : (b == 10 && c == e) = false := by
    rw [Bool.and_eq_false_iff]
    by_cases hb : b = 10
    · refine .inr (beq_false_of_ne ?_)
      rintro rfl
      rw [hb, isDigitOf_ten_letter he] at hdigit
      cases hdigit
    · exact .inl (beq_false_of_ne hb)
  have hpoint := hother '.' (.inl rfl)
  have hexponent : (b == 10 && (c == 'e' || c == 'E')) = false := by
    rw [Bool.and_or_distrib_left, hother 'e' (.inr (.inl rfl)), hother 'E' (.inr (.inr rfl))]
    rfl
  have hsuffix : (decide (b ≤ 10) && !isDecimal c) = false := by
    rw [Bool.and_eq_false_iff, Bool.not_eq_false', isDecimal, isDigitOf, hd]
    by_cases hb : b ≤ 10
    · exact .inr (decide_eq_true (Nat.lt_of_lt_of_le hlt hb))
    · exact .inl (decide_eq_false hb)
  rw [digits?, hlow, hpoint, hexponent, hd]
  dsimp only
  rw [hsuffix, if_pos hlt]
  rfl

/-- A low line is passed over. -/
theorem digits?_cons_low (b : Nat) (seen : Bool) (n : Nat) (s : List Char) :
    digits? b seen n ('_' :: s) = digits? b seen n s := by
  rw [digits?]
  rfl

/-- A run is read to its end: its digits are put behind the number that was read before it. -/
theorem digits?_append {b : Nat} {run : List Char} (h : ∀ c ∈ run, isPart b c = true)
    (seen : Bool) (n : Nat) (s : List Char) :
    digits? b seen n (run ++ s) =
      digits? b (seen || run.any (isDigitOf b))
        (n * b ^ (run.filterMap digit?).length + valueIn b run) s := by
  induction run generalizing seen n with
  | nil => simp [valueIn]
  | cons c run ih =>
    rw [List.forall_mem_cons] at h
    rw [List.cons_append]
    cases hdigit : isDigitOf b c with
    | true =>
      obtain ⟨d, hd, hlt⟩ := exists_of_isDigitOf hdigit
      rw [digits?_cons_digit hd hlt, ih h.2, List.any_cons, hdigit, valueIn_cons hd,
        List.filterMap_cons_some hd, List.length_cons, Nat.pow_succ]
      simp only [Bool.true_or, Bool.or_true]
      congr 1
      ring
    | false =>
      have hc : c = '_' := by
        have hpart := h.1
        rw [isPart, hdigit, Bool.false_or] at hpart
        exact eq_of_beq hpart
      subst hc
      rw [digits?_cons_low, ih h.2, List.any_cons, hdigit, valueIn_cons_low, Bool.false_or]
      rfl

/-! ## What ends a run -/

/-- What may follow a run: no digit and no low line, and in base ten no exponent. -/
def Ends (b : Nat) : List Char → Prop
  | [] => True
  | c :: s => isPart b c = false ∧ (b = 10 → c = 'e' ∨ c = 'E' → isExponent false s = false)

/-- Reading stops only where a run ends, and only after a digit. -/
theorem eq_of_digits? {b n m : Nat} {seen : Bool} {s suffix : List Char}
    (hstop : ∀ c ∈ s.head?, isPart b c = false) (h : digits? b seen n s = some (m, suffix)) :
    seen = true ∧ m = n ∧ suffix = s ∧ Ends b s := by
  have hseen {t : List Char} (h : (if seen = true then some (n, t) else none) = some (m, suffix)) :
      seen = true ∧ m = n ∧ suffix = t := by
    split at h
    · next hseen =>
      cases h
      exact ⟨hseen, rfl, rfl⟩
    · cases h
  cases s with
  | nil =>
    obtain ⟨hseen, hm, hsuffix⟩ := hseen h
    exact ⟨hseen, hm, hsuffix, trivial⟩
  | cons c s =>
    have hpart := hstop c rfl
    obtain ⟨hdigit, hlow⟩ := Bool.or_eq_false_iff.1 hpart
    rw [digits?, hlow, if_neg Bool.false_ne_true] at h
    split at h
    · cases h
    · split at h
      · split at h
        · cases h
        · next hexponent =>
          obtain ⟨hseen, hm, hsuffix⟩ := hseen h
          exact ⟨hseen, hm, hsuffix, hpart, fun _ _ => Bool.eq_false_iff.2 hexponent⟩
      · next hletter =>
        have hends : Ends b (c :: s) := by
          refine ⟨hpart, fun hb hc => absurd ?_ hletter⟩
          rw [hb, Bool.and_eq_true, Bool.or_eq_true, beq_iff_eq, beq_iff_eq, beq_iff_eq]
          exact ⟨rfl, hc⟩
        split at h
        · next d hd =>
          split at h
          · obtain ⟨hseen, hm, hsuffix⟩ := hseen h
            exact ⟨hseen, hm, hsuffix, hends⟩
          · split at h
            · next hlt =>
              rw [isDigitOf, hd] at hdigit
              exact absurd hlt (of_decide_eq_false hdigit)
            · cases h
        · obtain ⟨hseen, hm, hsuffix⟩ := hseen h
          exact ⟨hseen, hm, hsuffix, hends⟩

/-- No digit is as high as sixteen. -/
theorem lt_of_digit? {c : Char} {d : Nat} (h : digit? c = some d) : d < 16 := by
  have hle {a b : Char} (h : (decide (a ≤ c) && decide (c ≤ b)) = true) : c.toNat ≤ b.toNat :=
    of_decide_eq_true (Bool.and_eq_true _ _ ▸ h).2
  rw [digit?] at h
  split at h
  · next hc =>
    have hnine : c.toNat ≤ 57 := hle hc
    cases h
    show c.toNat - 48 < 16
    omega
  · split at h
    · next hc =>
      have hlower : c.toNat ≤ 102 := hle hc
      cases h
      show c.toNat - 97 + 10 < 16
      omega
    · split at h
      · next hc =>
        have hupper : c.toNat ≤ 70 := hle hc
        cases h
        show c.toNat - 65 + 10 < 16
        omega
      · cases h

/-- Reading stops at a suffix that ends a run. -/
theorem digits?_of_ends {b : Nat} (hb : b ≤ 10 ∨ b = 16) {s : List Char} (hs : isSuffix s = true)
    (h : Ends b s) (n : Nat) : digits? b true n s = some (n, s) := by
  cases s with
  | nil => rfl
  | cons c s =>
    obtain ⟨hpart, hexponent⟩ := h
    obtain ⟨hdigit, hlow⟩ := Bool.or_eq_false_iff.1 hpart
    have hstart : Text.isIdentifierStart c = true := by
      rw [isSuffix, List.isEmpty_cons, Bool.false_or, Word.isPlain, Bool.and_eq_true] at hs
      exact hs.1
    have hpoint : (b == 10 && c == '.') = false := by
      refine Bool.and_eq_false_iff.2 (.inr (beq_false_of_ne ?_))
      rintro rfl
      cases hstart
    rw [digits?, hlow, hpoint]
    simp only [Bool.false_eq_true, if_false, if_true]
    split
    · next hletter =>
      rw [Bool.and_eq_true, Bool.or_eq_true, beq_iff_eq, beq_iff_eq, beq_iff_eq] at hletter
      rw [hexponent hletter.1 hletter.2, if_neg Bool.false_ne_true]
    · cases hd : digit? c with
      | none => rfl
      | some d =>
        have hle : b ≤ d := by
          rw [isDigitOf, hd] at hdigit
          exact Nat.le_of_not_lt (of_decide_eq_false hdigit)
        have hten : b ≤ 10 := by
          have := lt_of_digit? hd
          omega
        rw [Ident.isDecimal_of_isIdentifierStart hstart, decide_eq_true hten]
        rfl

/-! ## Literals -/

/-- A text that is an integer literal: what its front announces, the run of its digits, and its
suffix. -/
structure IsInteger (s : List Char) (b : Nat) (run suffix : List Char) : Prop where
  starts : startsDecimal s = true
  text : base s = (b, run ++ suffix)
  parts : ∀ c ∈ run, isPart b c = true
  digit : ∃ c ∈ run, isDigitOf b c = true
  word : isSuffix suffix = true
  ends : Ends b suffix

theorem base_cases (s : List Char) : (base s).1 ≤ 10 ∨ (base s).1 = 16 := by
  rw [base.eq_def]
  split
  · exact .inr rfl
  · exact .inl (show 8 ≤ 10 by decide)
  · exact .inl (show 2 ≤ 10 by decide)
  · exact .inl (Nat.le_refl 10)

/-- A text begins with a run that nothing makes longer. -/
theorem exists_run (b : Nat) (s : List Char) :
    ∃ run rest, run ++ rest = s ∧ (∀ c ∈ run, isPart b c = true) ∧
      ∀ c ∈ rest.head?, isPart b c = false := by
  refine ⟨_, _, List.takeWhile_append_dropWhile (p := isPart b), fun c => List.mem_takeWhile_imp,
    fun c hc => ?_⟩
  have hnot := List.head?_dropWhile_not (isPart b) s
  rw [Option.mem_def.1 hc] at hnot
  exact hnot

/-- The literals that are read as a number are the integer literals, and the number is that of the
digits. -/
theorem parts?_eq_some_iff {s suffix : List Char} {n : Nat} :
    parts? s = some (n, suffix) ↔ ∃ b run, IsInteger s b run suffix ∧ n = valueIn b run := by
  have hread {b : Nat} {run rest : List Char} (h : ∀ c ∈ run, isPart b c = true) :
      digits? b false 0 (run ++ rest) =
        digits? b (run.any (isDigitOf b)) (valueIn b run) rest := by
    rw [digits?_append h, Bool.false_or, Nat.zero_mul, Nat.zero_add]
  constructor
  · intro h
    rw [parts?.eq_def] at h
    split at h
    · next hstarts =>
      obtain ⟨run, rest, htext, hparts, hstop⟩ := exists_run (base s).1 (base s).2
      dsimp only at h
      rw [← htext, hread hparts] at h
      split at h
      · next m t hdigits =>
        obtain ⟨hany, rfl, rfl, hends⟩ := eq_of_digits? hstop hdigits
        split at h
        · next hword =>
          cases h
          exact ⟨_, run, ⟨hstarts, Prod.ext rfl htext.symm, hparts, List.any_eq_true.1 hany, hword,
            hends⟩, rfl⟩
        · cases h
      · cases h
    · cases h
  · rintro ⟨b, run, h, rfl⟩
    have hb := base_cases s
    rw [h.text] at hb
    rw [parts?, if_pos h.starts, h.text]
    dsimp only
    rw [hread h.parts, List.any_eq_true.2 h.digit, digits?_of_ends hb h.word h.ends]
    dsimp only
    rw [if_pos h.word]

end Number

end TextTemplate
