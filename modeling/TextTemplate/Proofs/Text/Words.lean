import Mathlib.Data.List.DropRight
import TextTemplate.Text.Blank

/-!
# Words and the white space around them

- `Blanks`, `Solid`, `Gap`, `IsWord`: texts of white space, and texts without any.
- `trim_trim`, `trim_isInfix`: a text that is trimmed.
- `trim_blanks_append`, `trim_append_blanks`: white space around a text makes no difference.
- `firstWord`, `afterWord`: a text is a word and more text.
- `words_append`, `words_trim`: a word ends where white space follows.
- `trim_eq_iff`: when a text is only one word.
-/

namespace TextTemplate

namespace Text

/-- A text of white space only. -/
def Blanks (s : List Char) : Prop := ∀ c ∈ s, isBlank c = true

/-- A text without white space. -/
def Solid (s : List Char) : Prop := ∀ c ∈ s, isBlank c = false

/-- White space between two words. -/
def Gap (s : List Char) : Prop := s ≠ [] ∧ Blanks s

/-- A text that is one word. -/
def IsWord (s : List Char) : Prop := s ≠ [] ∧ Solid s

instance (s : List Char) : Decidable (Blanks s) := List.decidableBAll _ s

instance (s : List Char) : Decidable (Solid s) := List.decidableBAll _ s

instance (s : List Char) : Decidable (Gap s) := inferInstanceAs (Decidable (_ ∧ _))

instance (s : List Char) : Decidable (IsWord s) := inferInstanceAs (Decidable (_ ∧ _))

/-! ## Trimming -/

theorem trim_prefix_trimStart (s : List Char) : trim s <+: trimStart s :=
  List.rdropWhile_prefix isBlank (trimStart s)

theorem trim_isInfix (s : List Char) : trim s <:+: s := by
  have hstart : trimStart s <:+ s := List.dropWhile_suffix isBlank
  exact (trim_prefix_trimStart s).isInfix.trans hstart.isInfix

/-- The start of a text is not blank any more when its end is trimmed. -/
theorem trimStart_trim (s : List Char) : trimStart (trim s) = trim s := by
  -- If anything is left, it begins as the text does whose start is trimmed.
  refine List.dropWhile_eq_self_iff.2 fun hlen => ?_
  have hprefix := trim_prefix_trimStart s
  have hpos : 0 < (trimStart s).length := Nat.lt_of_lt_of_le hlen hprefix.length_le
  have hget : (trim s)[0] = (trimStart s)[0] := hprefix.getElem hlen
  rw [hget]
  exact List.dropWhile_get_zero_not isBlank s hpos

theorem trim_trim (s : List Char) : trim (trim s) = trim s := by
  rw [trim, trimStart_trim]
  exact List.rdropWhile_idempotent isBlank (trimStart s)

theorem trimStart_of_not_blank {c : Char} (h : isBlank c = false) (s : List Char) :
    trimStart (c :: s) = c :: s := by
  rw [trimStart, List.dropWhile_cons_of_neg (by rw [h]; exact Bool.false_ne_true)]

theorem trimStart_blanks {b : List Char} (hb : Blanks b) : trimStart b = [] :=
  List.dropWhile_eq_nil_iff.2 hb

/-- White space before a text is trimmed. -/
theorem trim_blanks_append {b : List Char} (hb : Blanks b) (s : List Char) :
    trim (b ++ s) = trim s := by
  rw [trim, trimStart, List.dropWhile_append_of_pos hb]
  rfl

theorem trimEnd_append_blanks (s : List Char) {b : List Char} (hb : Blanks b) :
    trimEnd (s ++ b) = trimEnd s := by
  have hrev : ∀ c ∈ b.reverse, isBlank c = true := fun c hc => hb c (List.mem_reverse.1 hc)
  rw [trimEnd, List.reverse_append, List.dropWhile_append_of_pos hrev]
  rfl

/-- White space after a text is trimmed. -/
theorem trim_append_blanks (s : List Char) {b : List Char} (hb : Blanks b) :
    trim (s ++ b) = trim s := by
  cases hs : trimStart s with
  | nil =>
    -- All of the text is white space, before which more of it is trimmed.
    have hall : Blanks s := List.dropWhile_eq_nil_iff.1 hs
    rw [trim_blanks_append hall, trim, trim, trimStart_blanks hb, hs]
  | cons c r =>
    have happend : trimStart (s ++ b) = trimStart s ++ b := by
      rw [trimStart, List.dropWhile_append, if_neg]
      · rfl
      · rw [trimStart] at hs
        rw [hs]
        exact Bool.false_ne_true
    rw [trim, happend, trimEnd_append_blanks _ hb]
    rfl

/-- What is trimmed at the end of a text is white space. -/
theorem exists_blanks_of_trimStart (s : List Char) :
    ∃ b, Blanks b ∧ trimStart s = trim s ++ b := by
  obtain ⟨b, hb⟩ := trim_prefix_trimStart s
  refine ⟨b, ?_, hb.symm⟩
  have hwhole : trimEnd (trimStart s) ++ b = trimStart s := hb
  have hdrop : (trimStart s).reverse = (trimStart s).reverse.takeWhile isBlank ++
      (trimStart s).reverse.dropWhile isBlank := List.takeWhile_append_dropWhile.symm
  have hsplit : trimStart s = trimEnd (trimStart s) ++
      ((trimStart s).reverse.takeWhile isBlank).reverse := by
    rw [trimEnd, ← List.reverse_append, ← hdrop, List.reverse_reverse]
  have hb' : b = ((trimStart s).reverse.takeWhile isBlank).reverse :=
    List.append_cancel_left (hwhole.trans hsplit)
  intro c hc
  rw [hb', List.mem_reverse] at hc
  exact List.mem_takeWhile_imp hc

/-! ## Words -/

/-- The first word of a text: what stands before its first white space. -/
def firstWord (s : List Char) : List Char := s.takeWhile fun c => !isBlank c

/-- What follows the first word of a text, without the white space around it. -/
def afterWord (s : List Char) : List Char := trim (s.dropWhile fun c => !isBlank c)

theorem solid_firstWord (s : List Char) : Solid (firstWord s) := by
  intro c hc
  have hnot := List.mem_takeWhile_imp hc
  simpa using hnot

theorem firstWord_prefix (s : List Char) : firstWord s <+: s :=
  List.takeWhile_prefix _

theorem trim_solid {w : List Char} (hw : Solid w) : trim w = w := by
  have hstart : trimStart w = w :=
    List.dropWhile_eq_self_iff.2 fun hlen => by
      rw [hw _ (List.getElem_mem hlen)]
      exact Bool.false_ne_true
  rw [trim, hstart, trimEnd, List.dropWhile_eq_self_iff.2, List.reverse_reverse]
  intro hlen
  rw [hw _ (List.mem_reverse.1 (List.getElem_mem hlen))]
  exact Bool.false_ne_true

theorem firstWord_solid_append {w : List Char} (hw : Solid w) (r : List Char) :
    firstWord (w ++ r) = w ++ firstWord r :=
  List.takeWhile_append_of_pos fun c hc => by rw [hw c hc]; rfl

/-- White space ends the word before it. -/
theorem words_append {w r : List Char} (hw : Solid w) (hr : ∀ c ∈ r.head?, isBlank c = true) :
    firstWord (w ++ r) = w ∧ afterWord (w ++ r) = trim r := by
  have hpos : ∀ c ∈ w, (!isBlank c) = true := fun c hc => by rw [hw c hc]; rfl
  have hstop : r.takeWhile (fun c => !isBlank c) = [] ∧ r.dropWhile (fun c => !isBlank c) = r := by
    cases r with
    | nil => exact ⟨rfl, rfl⟩
    | cons c r =>
      have hc : ¬ (!isBlank c) = true := by rw [hr c rfl]; exact Bool.false_ne_true
      exact ⟨List.takeWhile_cons_of_neg hc, List.dropWhile_cons_of_neg hc⟩
  constructor
  · rw [firstWord_solid_append hw, firstWord, hstop.1, List.append_nil]
  · rw [afterWord, List.dropWhile_append_of_pos hpos, hstop.2]

/-- A text is its first word and what begins with white space, if anything follows. -/
theorem exists_words (s : List Char) :
    ∃ r, firstWord s ++ r = s ∧ (∀ c ∈ r.head?, isBlank c = true) ∧ afterWord s = trim r := by
  refine ⟨_, List.takeWhile_append_dropWhile, fun c hc => ?_, rfl⟩
  have hnot := List.head?_dropWhile_not (fun c => !isBlank c) s
  rw [Option.mem_def.1 hc] at hnot
  simpa using hnot

/-- White space at the end of a text belongs to no word. -/
theorem words_append_blanks (s : List Char) {b : List Char} (hb : Blanks b) :
    firstWord (s ++ b) = firstWord s ∧ afterWord (s ++ b) = afterWord s := by
  obtain ⟨r, hs, hr, hafter⟩ := exists_words s
  have hhead : ∀ c ∈ (r ++ b).head?, isBlank c = true := by
    intro c hc
    rcases List.mem_append.1 (List.mem_of_mem_head? hc) with h | h
    · cases r with
      | nil => cases h
      | cons d r => exact hr c hc
    · exact hb c h
  have hwords := words_append (solid_firstWord s) hhead
  rw [← List.append_assoc, hs] at hwords
  rw [hafter, ← trim_append_blanks r hb]
  exact hwords

/-- A word and white space at the front of a text are there also when the text is trimmed. -/
theorem words_trim {w b : List Char} (hw : IsWord w) (hb : Gap b) (r : List Char) :
    firstWord (trim (w ++ b ++ r)) = w ∧ afterWord (trim (w ++ b ++ r)) = trim r := by
  obtain ⟨hne, hsolid⟩ := hw
  obtain ⟨hgap, hblanks⟩ := hb
  obtain ⟨c, w, rfl⟩ := List.exists_cons_of_ne_nil hne
  obtain ⟨d, b, rfl⟩ := List.exists_cons_of_ne_nil hgap
  have hstart : trimStart (c :: w ++ d :: b ++ r) = c :: w ++ (d :: b ++ r) := by
    rw [List.append_assoc]
    exact trimStart_of_not_blank (hsolid c List.mem_cons_self) _
  obtain ⟨e, he, hend⟩ := exists_blanks_of_trimStart (c :: w ++ d :: b ++ r)
  have htrim := words_append_blanks (trim (c :: w ++ d :: b ++ r)) he
  rw [← hend, hstart] at htrim
  have hhead : ∀ x ∈ (d :: b ++ r).head?, isBlank x = true := by
    rintro x ⟨⟩
    exact hblanks d List.mem_cons_self
  have hwords := words_append hsolid hhead
  exact ⟨htrim.1.symm.trans hwords.1,
    htrim.2.symm.trans (hwords.2.trans (trim_blanks_append hblanks r))⟩

/-- A trimmed text is a single word exactly if nothing follows its first word. -/
theorem trim_eq_iff {w : List Char} (hw : Solid w) (s : List Char) :
    trim s = w ↔ firstWord (trim s) = w ∧ afterWord (trim s) = [] := by
  constructor
  · rintro rfl
    have hwords := words_append (r := []) hw nofun
    rw [List.append_nil] at hwords
    exact hwords
  · rintro ⟨hfirst, hafter⟩
    obtain ⟨r, hs, -, hr⟩ := exists_words (trim s)
    -- What follows the word is white space, but at the end of a trimmed text there is none.
    have hblanks : Blanks r := List.all_eq_true.1 ((trim_eq_nil_iff r).1 (hr.symm.trans hafter))
    rw [← trim_trim, ← hs, trim_append_blanks _ hblanks, hfirst, trim_solid hw]

end Text

end TextTemplate
