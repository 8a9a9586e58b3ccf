import TextTemplate.Code.Lexeme
import TextTemplate.Proofs.Template.Closed

/-!
# Words and numbers in braces

Words, numbers and the suffixes of literals are made of characters that mean nothing to the reader
of text in braces.

- `Text.contains_of_ascii`: the tables of characters below U+0080, where all delimiters are.
- `Braced.Drops`: a reader of code has passed over such characters.
- `quiet_of_isIdentifierContinue`, `quiet_of_isIdentifierStart`: words are made of them.
- `drops_dropInt?`, `drops_dropFloat?`: so are numbers, and after a number no word goes on.
- `exists_of_split?`, `exists_of_splitAny?`, `exists_of_dropSuffix`: words and suffixes with the same
  property.
-/

namespace TextTemplate

namespace Text

/-! ## Letters and digits below U+0080 -/

section

variable {c : Char}

/-- Of the codes below U+0080 the tables have letters and digits, and one has the low line. -/
theorem contains_of_ascii (h : c.toNat < 0x80) :
    alphanumericRanges.contains c = c.isAlphanum ∧ identifierStartRanges.contains c = c.isAlpha ∧
      identifierContinueRanges.contains c = (c.isAlphanum || c == '_') := by
  have htables : ∀ n < 0x80,
      Ranges.containsCode alphanumericRanges n = (Char.ofNat n).isAlphanum ∧
        Ranges.containsCode identifierStartRanges n = (Char.ofNat n).isAlpha ∧
        Ranges.containsCode identifierContinueRanges n =
          ((Char.ofNat n).isAlphanum || Char.ofNat n == '_') := by
    decide +kernel
  have hc := htables _ h
  rwa [Char.ofNat_toNat] at hc

theorem isWordChar_of_ascii (h : c.toNat < 0x80) : isWordChar c = (c.isAlphanum || c == '_') := by
  rw [isWordChar, isAlphanumeric, (contains_of_ascii h).1]

theorem isIdentifierStart_of_ascii (h : c.toNat < 0x80) :
    isIdentifierStart c = (c == '_' || c.isAlpha) := by
  rw [isIdentifierStart, (contains_of_ascii h).2.1]

theorem isIdentifierContinue_of_ascii (h : c.toNat < 0x80) :
    isIdentifierContinue c = (c.isAlphanum || c == '_') :=
  (contains_of_ascii h).2.2

/-- No word goes on with a mark, a quote or a delimiter. -/
theorem isWordChar_eq_false (h : c.toNat < 0x80 ∧ (c.isAlphanum || c == '_') = false) :
    isWordChar c = false :=
  (isWordChar_of_ascii h.1).trans h.2

end

end Text

namespace Braced

open Text

/-- What a reader of code leaves of a text, if it has passed over quiet characters. -/
def Drops (s r : List Char) : Prop := ∃ w, s = w ++ r ∧ ∀ c ∈ w, Quiet c

namespace Drops

variable {s t r : List Char} {c : Char}

theorem refl (s : List Char) : Drops s s := ⟨[], rfl, List.forall_mem_nil _⟩

theorem trans (h : Drops s t) (h' : Drops t r) : Drops s r := by
  obtain ⟨w, rfl, hw⟩ := h
  obtain ⟨w', rfl, hw'⟩ := h'
  exact ⟨w ++ w', (List.append_assoc ..).symm, List.forall_mem_append.2 ⟨hw, hw'⟩⟩

theorem cons (hc : Quiet c) (h : Drops s r) : Drops (c :: s) r := by
  obtain ⟨w, rfl, hw⟩ := h
  exact ⟨c :: w, rfl, List.forall_mem_cons.2 ⟨hc, hw⟩⟩

theorem dropWhile {p : Char → Bool} (hp : ∀ c, p c = true → Quiet c) (s : List Char) :
    Drops s (s.dropWhile p) :=
  ⟨s.takeWhile p, List.takeWhile_append_dropWhile.symm,
    fun c hc => hp c (List.all_eq_true.1 List.all_takeWhile c hc)⟩

end Drops

/-! ## Characters -/

/-- A test that no delimiter passes lets only quiet characters pass; below U+0080, where the
delimiters are, it may be replaced. -/
theorem quiet_of_test {p q : Char → Bool} (hpq : ∀ c : Char, c.toNat < 0x80 → p c = q c)
    (hq : ['"', '\'', '#', '{', '}'].all (fun c => c.toNat < 0x80 && !q c) = true) {c : Char}
    (h : p c = true) : Quiet c := by
  intro hc
  obtain ⟨hlow, hno⟩ := Bool.and_eq_true_iff.1 (List.all_eq_true.1 hq c hc)
  rw [← hpq c (of_decide_eq_true hlow), h] at hno
  exact Bool.noConfusion hno

theorem quiet_of_isIdentifierContinue {c : Char} (h : isIdentifierContinue c = true) : Quiet c :=
  quiet_of_test (fun _ => isIdentifierContinue_of_ascii) (by decide) h

theorem quiet_of_isIdentifierStart {c : Char} (h : isIdentifierStart c = true) : Quiet c :=
  quiet_of_test (fun _ => isIdentifierStart_of_ascii) (by decide) h

theorem quiet_of_isDigitOf {b : Nat} {c : Char} (h : Number.isDigitOf b c = true) : Quiet c := by
  refine quiet_of_test (p := fun c => (Number.digit? c).isSome) (fun _ _ => rfl) (by decide) ?_
  rw [Number.isDigitOf.eq_def] at h
  revert h
  cases Number.digit? c with
  | none => exact fun h => h
  | some n => exact fun _ => rfl

theorem quiet_of_isDecimalOrLow {c : Char} (h : Number.isDecimalOrLow c = true) : Quiet c := by
  rw [Number.isDecimalOrLow, Bool.or_eq_true, beq_iff_eq] at h
  rcases h with h | rfl
  · exact quiet_of_isDigitOf h
  · decide

/-! ## Words and suffixes -/

/-- A word is made of quiet characters, and none that would go on with it follows. -/
theorem exists_of_split? {s w r : List Char} (h : Word.split? s = some (w, r)) :
    (∃ c v, w = c :: v ∧ isIdentifierStart c = true) ∧ s = w ++ r ∧ (∀ c ∈ w, Quiet c) ∧
      Word.continues r = false := by
  obtain ⟨hs, -⟩ := Word.append_of_split? h
  rw [Word.split?.eq_def] at h
  split at h
  · cases h
  · next c s' =>
    split at h
    · next hc =>
      obtain ⟨rfl, rfl⟩ := Prod.mk.inj (Option.some.inj h)
      refine ⟨⟨c, _, rfl, hc⟩, hs.symm, List.forall_mem_cons.2
        ⟨quiet_of_isIdentifierStart hc, fun d hd => quiet_of_isIdentifierContinue
          (List.all_eq_true.1 List.all_takeWhile d hd)⟩, ?_⟩
      cases hrest : s'.dropWhile isIdentifierContinue with
      | nil => rfl
      | cons d t =>
        have := List.head_dropWhile_not (p := isIdentifierContinue) (l := s') (by simp [hrest])
        simpa [hrest, Word.continues] using this
    · cases h

/-- The plain form of a word is the whole word, or what comes after `r#`. -/
theorem exists_of_splitAny? {s w r : List Char} (h : Word.splitAny? s = some (w, r)) :
    ∃ p ∈ [[], ['r', '#']], ∃ t v, s = p ++ t ∧ Word.split? t = some (v, r) := by
  rw [Word.splitAny?.eq_def] at h
  split at h
  · next t =>
    split at h
    · next v r' hv =>
      split at h
      · cases h
      · obtain ⟨-, rfl⟩ := Prod.mk.inj (Option.some.inj h)
        exact ⟨['r', '#'], by simp, t, v, rfl, hv⟩
    · cases h
  · exact ⟨[], by simp, _, _, rfl, h⟩

/-- So is a suffix, if there is one. -/
theorem exists_of_dropSuffix (s : List Char) : ∃ w, s = w ++ Word.dropSuffix s ∧
    (∀ c ∈ w, Quiet c) ∧ (w = [] ∨ Word.continues (Word.dropSuffix s) = false) := by
  rw [Word.dropSuffix]
  split
  · next w r h =>
    obtain ⟨-, hs, hw, hr⟩ := exists_of_split? h
    exact ⟨w, hs, hw, .inr hr⟩
  · exact ⟨[], rfl, List.forall_mem_nil _, .inl rfl⟩

/-! ## Numbers -/

theorem drops_finish? {s r : List Char} (h : Number.finish? s = some r) :
    Drops s r ∧ Word.continues r = false := by
  obtain ⟨w, hs, hw, -⟩ := exists_of_dropSuffix s
  rw [Number.finish?] at h
  split at h
  · cases h
  · next hr =>
    obtain rfl := Option.some.inj h
    exact ⟨⟨w, hs, hw⟩, Bool.eq_false_iff.2 hr⟩

theorem drops_base (s : List Char) : Drops s (Number.base s).2 := by
  rw [Number.base.eq_def]
  split
  · exact .cons (by decide) (.cons (by decide) (.refl _))
  · exact .cons (by decide) (.cons (by decide) (.refl _))
  · exact .cons (by decide) (.cons (by decide) (.refl _))
  · exact .refl _

theorem drops_dropDigits? {s r : List Char} (h : Number.dropDigits? s = some r) : Drops s r := by
  have hpart : ∀ c, (Number.isDigitOf (Number.base s).1 c || c == '_') = true → Quiet c := by
    intro c hc
    rw [Bool.or_eq_true, beq_iff_eq] at hc
    rcases hc with hc | rfl
    · exact quiet_of_isDigitOf hc
    · decide
  rw [Number.dropDigits?] at h
  dsimp only at h
  split at h
  · obtain rfl := Option.some.inj h
    exact (drops_base s).trans (.dropWhile hpart _)
  · cases h

/-- An integer is made of quiet characters, and no word goes on after it. -/
theorem drops_dropInt? {s r : List Char} (h : Number.dropInt? s = some r) :
    Drops s r ∧ Word.continues r = false := by
  obtain ⟨t, ht, hr⟩ := Option.bind_eq_some_iff.1 h
  obtain ⟨hdrops, hcontinues⟩ := drops_finish? hr
  exact ⟨(drops_dropDigits? ht).trans hdrops, hcontinues⟩

theorem drops_dropExponent? {s r : List Char} (h : Number.dropExponent? s = some r) :
    Drops s r := by
  have hlow : Drops s (s.dropWhile (· == '_')) := .dropWhile (fun c hc => by
    obtain rfl : c = '_' := eq_of_beq hc
    decide) s
  have hdigits {t : List Char} (ht : (if (t.takeWhile Number.isDecimalOrLow).any Number.isDecimal
      then some (t.dropWhile Number.isDecimalOrLow) else none) = some r) : Drops t r := by
    split at ht
    · obtain rfl := Option.some.inj ht
      exact .dropWhile (fun c => quiet_of_isDecimalOrLow) t
    · cases ht
  rw [Number.dropExponent?] at h
  split at h
  · next hsign =>
    rw [hsign] at hlow
    exact hlow.trans (.cons (by decide) (hdigits h))
  · next hsign =>
    rw [hsign] at hlow
    exact hlow.trans (.cons (by decide) (hdigits h))
  · exact hlow.trans (hdigits h)

/-- An exponent without digits is not passed over. -/
theorem drops_exponentOr {c : Char} (hc : Quiet c) (t : List Char) :
    Drops (c :: t) ((Number.dropExponent? t).getD (c :: t)) := by
  cases ht : Number.dropExponent? t with
  | none => exact .refl _
  | some r => exact .cons hc (drops_dropExponent? ht)

theorem drops_dropFloatDigits? {s r : List Char} (h : Number.dropFloatDigits? s = some r) :
    Drops s r := by
  have hrun (s : List Char) : Drops s (s.dropWhile Number.isDecimalOrLow) :=
    .dropWhile (fun c => quiet_of_isDecimalOrLow) s
  rw [Number.dropFloatDigits?] at h
  split at h
  · refine (hrun s).trans ?_
    split at h
    · next t hpoint =>
      rw [hpoint]
      refine .cons (by decide) ?_
      split at h
      · cases h
      · refine (hrun t).trans ?_
        dsimp only at h
        split at h
        · next hexp =>
          obtain rfl := Option.some.inj h
          rw [hexp]
          exact drops_exponentOr (by decide) _
        · next hexp =>
          obtain rfl := Option.some.inj h
          rw [hexp]
          exact drops_exponentOr (by decide) _
        · obtain rfl := Option.some.inj h
          exact .refl _
    · next t hexp =>
      rw [hexp]
      exact .cons (by decide) (drops_dropExponent? h)
    · next t hexp =>
      rw [hexp]
      exact .cons (by decide) (drops_dropExponent? h)
    · cases h
  · cases h

/-- A float is made of quiet characters, and no word goes on after it. -/
theorem drops_dropFloat? {s r : List Char} (h : Number.dropFloat? s = some r) :
    Drops s r ∧ Word.continues r = false := by
  obtain ⟨t, ht, hr⟩ := Option.bind_eq_some_iff.1 h
  obtain ⟨hdrops, hcontinues⟩ := drops_finish? hr
  exact ⟨(drops_dropFloatDigits? ht).trans hdrops, hcontinues⟩

end Braced

end TextTemplate
