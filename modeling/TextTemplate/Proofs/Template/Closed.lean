import TextTemplate.Template.Piece

/-!
# Text that may stand in braces

The reader of text in braces goes on until the brace that closes them. A text may stand there if the
reader takes all of it and stops at the brace behind it, whatever comes after.

- `Braced.Closed`: texts that may stand in braces.
- `readFrom_blank`: what comes before a blank has no influence on what is read after it.
- `readFrom_literal`, `readFrom_open`, `readFrom_close`, `readFrom_close_succ`, `readFrom_char`: the
  steps of the reader.
- `Braced.Quiet`, `readFrom_quiet`, `closed_quiet`: characters that are read as themselves.
- `closed_sign`, `Closed.after_sign`: tags may stand in braces, alone and with text after them.
-/

namespace TextTemplate

namespace Opening

/-- An `r` after a blank begins a literal as it does at the beginning. -/
theorem startsToken_append_blank (u w : List Char) :
    startsToken (u ++ ' ' :: w) = startsToken u := by
  have hblank : Text.isWordChar ' ' = false := by decide +kernel
  match u with
  | [] =>
    show (!Text.isWordChar ' ') = true
    rw [hblank]
    rfl
  | ['b'] =>
    show (!Text.isWordChar ' ') = true
    rw [hblank]
    rfl
  | 'b' :: c :: u => rfl
  | [c] =>
    by_cases hc : c = 'b'
    · subst hc
      show (!Text.isWordChar ' ') = true
      rw [hblank]
      rfl
    · simp [startsToken, hc]
  | c :: d :: u =>
    by_cases hc : c = 'b'
    · subst hc
      rfl
    · simp [startsToken, hc]

theorem at?_append_blank (u w : List Char) (c : Char) (s : List Char) :
    at? (u ++ ' ' :: w) c s = at? u c s := by
  rw [at?, at?, startsToken_append_blank]

end Opening

namespace Braced

/-- A text that may stand in braces: it is read up to the brace behind it. -/
def Closed (s : List Char) : Prop := ∀ rest, read (s ++ '}' :: rest) = .ok (s, rest)

@[simp] theorem prepend_nil (x : Except OpenEnd (List Char × List Char)) : prepend [] x = x := by
  rcases x with e | ⟨u, r⟩ <;> rfl

theorem prepend_prepend (t u : List Char) (x : Except OpenEnd (List Char × List Char)) :
    prepend t (prepend u x) = prepend (t ++ u) x := by
  rcases x with e | ⟨v, r⟩
  · rfl
  · exact congrArg Except.ok (by rw [List.append_assoc])

/-! ## Steps of the reader -/

section

variable {depth : Nat} {before s t r : List Char} {c : Char} {o : Opening}

/-- A literal is read whole. -/
theorem readFrom_literal (ho : Opening.at? before c s = some o) (hs : o.split? s = some (t, r)) :
    readFrom depth before (c :: s) =
      prepend (c :: t) (readFrom depth (t.reverse ++ c :: before) r) := by
  rw [readFrom.eq_def]
  dsimp only
  split
  · next o' ho' =>
    obtain rfl : o = o' := Option.some.inj (ho.symm.trans ho')
    split
    · next t' r' hs' =>
      obtain ⟨rfl, rfl⟩ : t = t' ∧ r = r' := by simpa using hs.symm.trans hs'
      rfl
    · next hs' => exact absurd (hs.symm.trans hs') (Option.some_ne_none _)
  · next ho' => exact absurd (ho.symm.trans ho') (Option.some_ne_none _)

/-- A literal that does not end is the error. -/
theorem readFrom_open (ho : Opening.at? before c s = some o) (hs : o.split? s = none) :
    readFrom depth before (c :: s) = .error o.openEnd := by
  rw [readFrom.eq_def]
  dsimp only
  split
  · next o' ho' =>
    obtain rfl : o = o' := Option.some.inj (ho.symm.trans ho')
    split
    · next hs' => exact absurd (hs'.symm.trans hs) (Option.some_ne_none _)
    · rfl
  · next ho' => exact absurd (ho.symm.trans ho') (Option.some_ne_none _)

/-- The brace that closes all others is not read. -/
theorem readFrom_close (ho : Opening.at? before '}' s = none) :
    readFrom 0 before ('}' :: s) = .ok ([], s) := by
  rw [readFrom.eq_def]
  dsimp only
  split
  · next ho' => exact absurd (ho'.symm.trans ho) (Option.some_ne_none _)
  · rfl

/-- Another closing brace closes one. -/
theorem readFrom_close_succ (ho : Opening.at? before '}' s = none) :
    readFrom (depth + 1) before ('}' :: s) = prepend ['}'] (readFrom depth ('}' :: before) s) := by
  rw [readFrom.eq_def]
  dsimp only
  split
  · next ho' => exact absurd (ho'.symm.trans ho) (Option.some_ne_none _)
  · rfl

/-- Every other character is read as itself; an opening brace opens one. -/
theorem readFrom_char (ho : Opening.at? before c s = none) (hc : c ≠ '}') :
    readFrom depth before (c :: s) =
      prepend [c] (readFrom (if c = '{' then depth + 1 else depth) (c :: before) s) := by
  rw [readFrom.eq_def]
  dsimp only
  split
  · next ho' => exact absurd (ho'.symm.trans ho) (Option.some_ne_none _)
  · rw [if_neg hc]

end

/-! ## What comes before -/

/-- What comes before a blank has no influence on what is read after it. -/
theorem readFrom_blank (depth : Nat) (u w s : List Char) :
    readFrom depth (u ++ ' ' :: w) s = readFrom depth u s := by
  fun_induction readFrom depth u s with
  | case1 depth u => rw [readFrom]
  | case2 depth u c s o ho t r hs ih =>
    rw [readFrom_literal (by rwa [Opening.at?_append_blank]) hs, ← ih, List.append_assoc]
    rfl
  | case3 depth u c s o ho hs => exact readFrom_open (by rwa [Opening.at?_append_blank]) hs
  | case4 u s ho => exact readFrom_close (by rwa [Opening.at?_append_blank])
  | case5 u s depth ho ih =>
    rw [readFrom_close_succ (by rwa [Opening.at?_append_blank]), ← ih]
    rfl
  | case6 depth u c s ho hc ih =>
    rw [readFrom_char (by rwa [Opening.at?_append_blank]) hc]
    simp only [dite_eq_ite] at ih
    exact congrArg (prepend [c]) ih

/-! ## Quiet characters -/

/-- A character that neither begins a literal, nor goes on with one that an `r` has begun, nor is a
brace. -/
def Quiet (c : Char) : Prop := c ∉ ['"', '\'', '#', '{', '}']

instance (c : Char) : Decidable (Quiet c) := inferInstanceAs (Decidable (¬ _))

/-- All characters of a text are quiet if a walk over them says so. -/
theorem quiet_of_all {w : List Char} (h : w.all (fun c => decide (Quiet c)) = true) :
    ∀ c ∈ w, Quiet c :=
  fun c hc => of_decide_eq_true (List.all_eq_true.1 h c hc)

/-- No literal begins at a quiet character if a quiet character or a closing brace follows it. -/
theorem at?_eq_none {before s : List Char} {c d : Char} (hc : Quiet c) (hd : Quiet d ∨ d = '}') :
    Opening.at? before c (d :: s) = none := by
  simp only [Quiet, List.mem_cons, not_or] at hc
  have hd' : d ≠ '"' ∧ d ≠ '#' := by
    rcases hd with hd | rfl
    · simp only [Quiet, List.mem_cons, not_or] at hd
      exact ⟨hd.1, hd.2.2.1⟩
    · decide
  have hhashes : Opening.hashes? (d :: s) = none := by
    simp [Opening.hashes?, hd'.1, hd'.2]
  rw [Opening.at?, if_neg hc.1, if_neg hc.2.1, hhashes]
  split
  · split <;> rfl
  · rfl

/-- Quiet characters are read as themselves if a quiet character or a closing brace follows. -/
theorem readFrom_quiet (depth : Nat) (before : List Char) {w s : List Char} {d : Char}
    (hw : ∀ c ∈ w, Quiet c) (hd : Quiet d ∨ d = '}') :
    readFrom depth before (w ++ d :: s) =
      prepend w (readFrom depth (w.reverse ++ before) (d :: s)) := by
  induction w generalizing before with
  | nil => exact (prepend_nil _).symm
  | cons c w ih =>
    obtain ⟨hc, hw⟩ := List.forall_mem_cons.1 hw
    have hnone : Opening.at? before c (w ++ d :: s) = none := by
      cases w with
      | nil => exact at?_eq_none hc hd
      | cons e w => exact at?_eq_none hc (.inl (hw e List.mem_cons_self))
    have hbraces : c ≠ '{' ∧ c ≠ '}' := by
      simp only [Quiet, List.mem_cons, not_or] at hc
      exact ⟨hc.2.2.2.1, hc.2.2.2.2.1⟩
    rw [List.cons_append, readFrom_char hnone hbraces.2, if_neg hbraces.1, ih _ hw,
      prepend_prepend, List.reverse_cons, List.append_assoc]
    rfl

/-- Quiet characters may stand in braces. -/
theorem closed_quiet {w : List Char} (hw : ∀ c ∈ w, Quiet c) : Closed w := by
  intro rest
  rw [read, readFrom_quiet 0 [] hw (.inr rfl), readFrom_close rfl]
  exact congrArg Except.ok (by simp)

/-- A character that begins nothing is read as itself, whatever follows. -/
theorem readFrom_plain (depth : Nat) (before s : List Char) {c : Char}
    (hc : c ∉ ['"', '\'', 'r', '{', '}']) :
    readFrom depth before (c :: s) = prepend [c] (readFrom depth (c :: before) s) := by
  simp only [List.mem_cons, not_or] at hc
  obtain ⟨hquote, hsingle, hr, hopen, hclose, -⟩ := hc
  have hnone : Opening.at? before c s = none := by
    rw [Opening.at?, if_neg hquote, if_neg hsingle, if_neg hr]
  rw [readFrom_char hnone hclose, if_neg hopen]

theorem readFrom_sign (depth : Nat) (before s : List Char) {c : Char} (hc : c ∈ Cut.tagSigns) :
    readFrom depth before (c :: s) = prepend [c] (readFrom depth (c :: before) s) := by
  apply readFrom_plain
  revert hc
  simp only [Cut.tagSigns, List.mem_cons, List.not_mem_nil, or_false]
  rintro (rfl | rfl | rfl | rfl) <;> decide

/-- A tag that is one word may stand in braces. -/
theorem closed_sign {c : Char} {w : List Char} (hc : c ∈ Cut.tagSigns) (hw : ∀ d ∈ w, Quiet d) :
    Closed (c :: w) := by
  intro rest
  rw [read, List.cons_append, readFrom_sign 0 [] _ hc, readFrom_quiet 0 [c] hw (.inr rfl),
    readFrom_close rfl]
  exact congrArg Except.ok (by simp)

/-- A text that may stand in braces may do so after the word of a tag and a blank. -/
theorem Closed.after_sign {c : Char} {w s : List Char} (hs : Closed s) (hc : c ∈ Cut.tagSigns)
    (hw : ∀ d ∈ w, Quiet d) : Closed (c :: w ++ ' ' :: s) := by
  intro rest
  have hblank : readFrom 0 (' ' :: (w.reverse ++ [c])) (s ++ '}' :: rest) = .ok (s, rest) :=
    (readFrom_blank 0 [] (w.reverse ++ [c]) _).trans (hs rest)
  rw [read, List.cons_append, List.cons_append, List.append_assoc, List.cons_append,
    readFrom_sign 0 [] _ hc, readFrom_quiet 0 [c] hw (.inl (by decide)),
    readFrom_plain 0 _ _ (by decide), hblank]
  exact congrArg Except.ok (by simp)

end Braced

end TextTemplate
