import Mathlib.Data.List.TakeDrop
import TextTemplate.Proofs.Template.Keywords

/-!
# Heads of loops

The head of a loop is a pattern, the word `in` and an iterator. It is told apart at the first word
`in` of its tokens. A word `in` in a group is a token of that group and not of the head, and the raw
word `r#in` is another word; one that follows the first belongs to the iterator.

- `Piece.splitAtIn?_eq_some_iff`, `Piece.splitAtIn?_eq_none_iff`: where code is told apart.
- `Piece.IsHead`: two pieces of code that are found again when the word `in` is put between them.
- `Piece.HeadVerdict`: what is made of the tokens of a head, in each of the cases.
- `Piece.loopHead_eq_iff`: there is one verdict, the one that the steps of `Piece.loopHead` come to.
- `Piece.parts_of_loopHead`: the head that a pattern and an iterator were taken from.
- `Piece.loop_of_head`: the main statement.
-/

namespace TextTemplate

namespace Piece

open Text

variable {code pattern iterator : Code}

/-! ## The first word `in` -/

/-- Code is told apart at a word `in` with no other one before it. -/
theorem splitAtIn?_eq_some_iff : splitAtIn? code = some (pattern, iterator) ↔
    pattern ++ .word "in" :: iterator = code ∧ .word "in" ∉ pattern := by
  rw [splitAtIn?, List.span_eq_takeWhile_dropWhile]
  constructor
  · intro h
    split at h
    · next front t back hspan =>
      cases h
      obtain ⟨rfl, hdrop⟩ := Prod.mk.inj hspan
      -- The rest begins with the first token that is passed over no longer.
      have ht : t = .word "in" := by
        have hstop := List.head?_dropWhile_not (fun t => decide (t ≠ .word "in")) code
        rw [hdrop] at hstop
        simpa using hstop
      subst ht
      refine ⟨?_, fun hin => ?_⟩
      · rw [← hdrop, List.takeWhile_append_dropWhile]
      · have hne := List.mem_takeWhile_imp hin
        exact absurd rfl (of_decide_eq_true hne)
    · cases h
  · rintro ⟨rfl, hnot⟩
    have hpattern : ∀ t ∈ pattern, decide (t ≠ .word "in") = true := fun t ht =>
      decide_eq_true fun h => hnot (h ▸ ht)
    rw [List.takeWhile_append_of_pos hpattern, List.dropWhile_append_of_pos hpattern]
    simp

/-- Code without a word `in` is not told apart. -/
theorem splitAtIn?_eq_none_iff : splitAtIn? code = none ↔ .word "in" ∉ code := by
  rw [Option.eq_none_iff_forall_not_mem]
  constructor
  · intro h hin
    obtain ⟨front, back, rfl, hnot⟩ := List.eq_append_cons_of_mem hin
    exact h (front, back) (splitAtIn?_eq_some_iff.2 ⟨rfl, hnot⟩)
  · rintro hnot ⟨front, back⟩ hsplit
    obtain ⟨rfl, -⟩ := splitAtIn?_eq_some_iff.1 hsplit
    exact hnot (List.mem_append_right front List.mem_cons_self)

/-! ## Verdicts -/

/-- The head of a loop is told apart at the first word `in`, and neither side of it is empty. -/
structure IsHead (pattern iterator : Code) : Prop where
  pattern_ne_nil : pattern ≠ []
  iterator_ne_nil : iterator ≠ []
  not_mem : .word "in" ∉ pattern

/-- What is made of the tokens of a head. The pattern is judged before the iterator, and neither of
them if one is missing. -/
inductive HeadVerdict : Code → Except Cause (Code × Code) → Prop
  | undivided {code : Code} (h : .word "in" ∉ code) : HeadVerdict code (.error .loopHead)
  | noPattern (iterator : Code) : HeadVerdict (.word "in" :: iterator) (.error .loopHead)
  | noIterator {pattern : Code} (h : .word "in" ∉ pattern) :
    HeadVerdict (pattern ++ [.word "in"]) (.error .loopHead)
  | wrongPattern {pattern iterator : Code} {c : Grammar.Complaint} (hhead : IsHead pattern iterator)
    (hpattern : Grammar.checkPattern pattern = .error c) :
    HeadVerdict (pattern ++ .word "in" :: iterator) (.error (.loopPattern c))
  | wrongIterator {pattern iterator : Code} {c : Grammar.Complaint}
    (hhead : IsHead pattern iterator) (hpattern : Grammar.checkPattern pattern = .ok ())
    (hiterator : Grammar.checkExpression iterator = .error c) :
    HeadVerdict (pattern ++ .word "in" :: iterator) (.error (.loopIterator c))
  | loop {pattern iterator : Code} (hhead : IsHead pattern iterator)
    (hpattern : Grammar.checkPattern pattern = .ok ())
    (hiterator : Grammar.checkExpression iterator = .ok ()) :
    HeadVerdict (pattern ++ .word "in" :: iterator) (.ok (pattern, iterator))

/-- The verdict of `loopHead` is one of those that there are. -/
theorem headVerdict_loopHead (code : Code) : HeadVerdict code (loopHead code) := by
  unfold loopHead
  split
  · next hsplit => exact .undivided (splitAtIn?_eq_none_iff.1 hsplit)
  · next pattern iterator hsplit =>
    obtain ⟨rfl, hnot⟩ := splitAtIn?_eq_some_iff.1 hsplit
    split
    · next hempty =>
      rcases hempty with rfl | rfl
      · exact .noPattern iterator
      · exact .noIterator hnot
    · next hempty =>
      rw [not_or] at hempty
      have hhead : IsHead pattern iterator := ⟨hempty.1, hempty.2, hnot⟩
      split
      · next hpattern => exact .wrongPattern hhead hpattern
      · next hpattern =>
        split
        · next hiterator => exact .wrongIterator hhead hpattern hiterator
        · next hiterator => exact .loop hhead hpattern hiterator

/-- With both sides there, they are judged one after the other. -/
theorem loopHead_append (h : IsHead pattern iterator) :
    loopHead (pattern ++ .word "in" :: iterator) =
      match Grammar.checkPattern pattern with
      | .error c => .error (.loopPattern c)
      | .ok _ =>
        match Grammar.checkExpression iterator with
        | .error c => .error (.loopIterator c)
        | .ok _ => .ok (pattern, iterator) := by
  have hempty : ¬ (pattern = [] ∨ iterator = []) := not_or.2 ⟨h.pattern_ne_nil, h.iterator_ne_nil⟩
  rw [loopHead, splitAtIn?_eq_some_iff.2 ⟨rfl, h.not_mem⟩]
  exact if_neg hempty

/-- There is no other verdict than that of `loopHead`. -/
theorem HeadVerdict.loopHead_eq {verdict : Except Cause (Code × Code)}
    (h : HeadVerdict code verdict) : loopHead code = verdict := by
  cases h with
  | undivided h => rw [loopHead, splitAtIn?_eq_none_iff.2 h]
  | noPattern iterator =>
    rw [loopHead, splitAtIn?_eq_some_iff.2 ⟨List.nil_append _, nofun⟩]
    exact if_pos (.inl rfl)
  | noIterator h =>
    rw [loopHead, splitAtIn?_eq_some_iff.2 ⟨rfl, h⟩]
    exact if_pos (.inr rfl)
  | wrongPattern hhead hpattern => rw [loopHead_append hhead, hpattern]
  | wrongIterator hhead hpattern hiterator => rw [loopHead_append hhead, hpattern, hiterator]
  | loop hhead hpattern hiterator => rw [loopHead_append hhead, hpattern, hiterator]

theorem loopHead_eq_iff (code : Code) (verdict : Except Cause (Code × Code)) :
    loopHead code = verdict ↔ HeadVerdict code verdict :=
  ⟨fun h => h ▸ headVerdict_loopHead code, HeadVerdict.loopHead_eq⟩

/-- A pattern and an iterator with the word `in` between them are the head that they were told apart
from. -/
theorem parts_of_loopHead (h : loopHead code = .ok (pattern, iterator)) :
    IsHead pattern iterator ∧ pattern ++ [.word "in"] ++ iterator = code := by
  have hverdict := (loopHead_eq_iff _ _).1 h
  cases hverdict with
  | loop hhead => exact ⟨hhead, List.append_assoc ..⟩

/-! ## Tags that begin a loop -/

/-- **A loop is told apart at the first word `in` of its head, and nothing is lost.** The tokens of
a head have exactly one verdict. If it is a pattern and an iterator, these and the word between them
are the tokens of the head again. A tag begins a loop exactly as the verdict on its head says. A
head that is not told apart, or that has only one side, is refused with the form that it should
have. -/
theorem loop_of_head {head : List Char} (hcode : Code.ofChars? head = some code) :
    (∀ verdict, (lex head >>= loopHead) = verdict ↔ HeadVerdict code verdict) ∧
      (∀ pattern iterator, (lex head >>= loopHead) = .ok (pattern, iterator) →
        pattern ++ [.word "in"] ++ iterator = code) ∧
      (∀ p tag, after? "#for" (trim tag) = some head →
        ofTag p tag = (lex head >>= loopHead).map fun h => openFor p h.1 h.2) ∧
      Cause.loopHead.message = "Expected \x7b#for pattern in expression\x7d" := by
  have hhead : (lex head >>= loopHead) = loopHead code := by
    rw [lex, hcode]
    rfl
  refine ⟨fun verdict => ?_, fun pattern iterator h => ?_, fun p tag htag => ?_, rfl⟩
  · rw [hhead]
    exact loopHead_eq_iff code verdict
  · rw [hhead] at h
    exact (parts_of_loopHead h).2
  · rw [ofTag_of_keyword p (by decide) htag]
    rfl

/-- A head with four words `in`: a raw one, one in a group, the one that counts, and one of a loop
that is the iterator. -/
theorem loop_of_head_repeated :
    Code.ofChars? "r#in @ m!(a in b) in for c in d {}".toList =
        some [.word "r#in", .mark '@' .alone, .word "m", .mark '!' .alone,
          .group .paren [.word "a", .word "in", .word "b"], .word "in", .word "for", .word "c",
          .word "in", .word "d", .group .brace []] ∧
      ofTag .start "#for r#in @ m!(a in b) in for c in d {}".toList =
        .ok (openFor .start
          [.word "r#in", .mark '@' .alone, .word "m", .mark '!' .alone,
            .group .paren [.word "a", .word "in", .word "b"]]
          [.word "for", .word "c", .word "in", .word "d", .group .brace []]) := by
  have hcode : Code.ofChars? "r#in @ m!(a in b) in for c in d {}".toList =
      some ([.word "r#in", .mark '@' .alone, .word "m", .mark '!' .alone,
        .group .paren [.word "a", .word "in", .word "b"]] ++ .word "in" ::
        [.word "for", .word "c", .word "in", .word "d", .group .brace []]) := by decide +kernel
  obtain ⟨hverdict, -, htag, -⟩ := loop_of_head hcode
  have hloop := (hverdict _).2
    (.loop ⟨nofun, nofun, by decide⟩ (by decide +kernel) (by decide +kernel))
  refine ⟨hcode, ?_⟩
  rw [htag .start _ (by decide +kernel), hloop]
  rfl

/-- A head of which both sides are wrong is refused for its pattern. -/
example : loopHead [.word "x", .word "y", .word "in", .mark '+' .alone] =
    .error (.loopPattern (.leftover none)) := by
  decide +kernel

end Piece

end TextTemplate
