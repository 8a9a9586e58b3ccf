import TextTemplate.Proofs.Code.Verbatim
import TextTemplate.Proofs.Expansion.Arguments
import TextTemplate.Proofs.Template.Finality

/-!
# What a complaint about a template points at

A fault of a template is counted in bytes of the template, and the characters of the arguments are
counted one by one. Where the literal is written without escapes the two meet: the complaint points at
the character that begins the faulty construct, as long as only characters of one byte stand before it
in the template. Every further byte moves it to the right.

- `Place.ofOffset_append`: the place after a front of a text.
- `Invocation.exists_of_ofTokens`: the literal is the first token.
- `Invocation.exists_of_isVerbatim`: where the literal and the template stand among the arguments.
- `Invocation.extent_of_place`, `extent_eq_iff`: the characters that a fault points at.
- `Invocation.expand_of_parse_error`: the main statement.
- `Invocation.extent_accented`: a complaint that is moved.
-/

namespace TextTemplate

theorem length_eq_byteCount_iff {s : List Char} :
    byteCount s = s.length ↔ ∀ c ∈ s, c.utf8Size = 1 := by
  induction s with
  | nil => simp [byteCount]
  | cons c s ih =>
    have hc := c.utf8Size_pos
    have hs := length_le_byteCount s
    rw [List.forall_mem_cons, ← ih, byteCount, List.length_cons]
    omega

namespace Place

/-- The place after a text. -/
def afterAll (p : Place) (s : List Char) : Place := s.foldl after p

theorem afterAll_append_singleton (p : Place) (s : List Char) (c : Char) :
    p.afterAll (s ++ [c]) = (p.afterAll s).after c := List.foldl_concat ..

theorem ofOffset_append (front back : List Char) :
    ofOffset (front ++ back) front.length = afterAll ⟨1, 0⟩ front := by
  rw [ofOffset, List.take_left]
  rfl

end Place

namespace Invocation

variable {tokens : List (Placed Token)} {i : Invocation} {f : Fault}

/-! ## The literal among the arguments -/

/-- The literal is the first token, and the template is its value. -/
theorem exists_of_ofTokens (h : ofTokens tokens = .ok i) :
    ∃ rest, tokens = ⟨i.place.start, i.place.stop, .literal i.literal⟩ :: rest ∧
      StringLiteral.value? i.literal.toList = some i.value := by
  obtain ⟨hplace, hvalue, tail, htokens, -⟩ := written_of_ofTokens h
  obtain ⟨⟨start, stop, t⟩, rest, rfl, rfl, -⟩ := values_eq_cons_iff.1 htokens
  rw [← Option.some.inj hplace]
  exact ⟨rest, rfl, hvalue⟩

/-- Where the literal and its quotes stand among the arguments, if it is written without escapes. -/
theorem exists_of_isVerbatim {input : List Char} (hlocate : Code.locate? input = some tokens)
    (hargs : ofTokens tokens = .ok i) (h : i.isVerbatim = true) :
    ∃ left right, input = left ++ '"' :: (i.value ++ '"' :: right) ∧
      i.place = ⟨left.length, left.length + i.value.length + 2⟩ := by
  obtain ⟨rest, rfl, hvalue⟩ := exists_of_ofTokens hargs
  obtain ⟨hliteral, -⟩ := literal_of_isVerbatim hvalue h
  obtain ⟨left, right, hinput, hstart, hstop, -⟩ :=
    Placed.exists_of_locate? hlocate List.mem_cons_self
  rw [hliteral] at hinput hstop
  refine ⟨left, right, by simpa using hinput, ?_⟩
  have hlength : ('"' :: (i.value ++ ['"'])).length = i.value.length + 2 := by simp
  rw [hlength, ← Nat.add_assoc, hstart] at hstop
  rw [← hstart] at hstop ⊢
  exact congrArg (Extent.mk _) hstop

/-! ## The extent of a fault -/

/-- A fault after the text `before` of the template points at the character whose number, after the
opening quote, is the number of bytes of that text. -/
theorem extent_of_place {k : Nat} {before : List Char} (h : i.isVerbatim = true)
    (hplace : i.place = ⟨k, k + i.value.length + 2⟩)
    (hf : f.position = Position.start.afterAll before) :
    i.extent f = if byteCount before ≤ i.value.length
      then ⟨k + 1 + byteCount before, k + 2 + byteCount before⟩ else i.place := by
  have hoffset : f.position.offset = byteCount before := by
    rw [hf, Position.offset_afterAll]
    exact Nat.zero_add _
  rw [extent, h, hoffset, hplace, Bool.true_and]
  by_cases hle : byteCount before ≤ i.value.length
  · have hfits : k + byteCount before + 1 + 1 ≤ k + i.value.length + 2 := by omega
    rw [if_pos hle, if_pos (decide_eq_true hfits), Nat.add_right_comm k]
    congr 1
    omega
  · have hleaves : ¬ k + byteCount before + 1 + 1 ≤ k + i.value.length + 2 := by omega
    rw [if_neg hle, decide_eq_false hleaves]
    rfl

/-- It points at the character after that text if and only if this has no character of more than one
byte. -/
theorem extent_eq_iff {k : Nat} {before after : List Char} {c : Char} (h : i.isVerbatim = true)
    (hplace : i.place = ⟨k, k + i.value.length + 2⟩) (hvalue : i.value = before ++ c :: after)
    (hf : f.position = Position.start.afterAll before) :
    i.extent f = ⟨k + 1 + before.length, k + 2 + before.length⟩ ↔ ∀ d ∈ before, d.utf8Size = 1 := by
  rw [extent_of_place h hplace hf, ← length_eq_byteCount_iff]
  have hle := length_le_byteCount before
  have hlength : before.length < i.value.length := by
    rw [hvalue, List.length_append, List.length_cons]
    omega
  by_cases hfits : byteCount before ≤ i.value.length
  · rw [if_pos hfits, Extent.mk.injEq]
    omega
  · rw [if_neg hfits, hplace, Extent.mk.injEq]
    omega

/-- **Where a complaint about a template points.** A fault stands where a construct begins, and if the
literal is written without escapes this character stands in it as it is. The complaint points at the
character whose number counts the bytes before the construct, or at the whole literal if this has not
so many characters. So it points at that very character, with its line and column, if and only if all
characters before it in the template are of one byte. -/
theorem expand_of_parse_error {input : List Char} (hlocate : Code.locate? input = some tokens)
    (hargs : ofTokens tokens = .ok i) (hverbatim : i.isVerbatim = true)
    (hparse : Template.parse i.value = .error f) :
    expand tokens = .error (.template (i.extent f) (i.lineOffset.getD 0) f) ∧
      ∃ left before c after right,
        input = left ++ '"' :: (before ++ c :: after ++ '"' :: right) ∧
        i.value = before ++ c :: after ∧
        i.place = ⟨left.length, left.length + i.value.length + 2⟩ ∧
        (c = '@' ∨ c = '{') ∧ f.position = Position.start.afterAll before ∧
        (i.extent f = if byteCount before ≤ i.value.length
          then ⟨left.length + 1 + byteCount before, left.length + 2 + byteCount before⟩
          else i.place) ∧
        (i.extent f = ⟨left.length + 1 + before.length, left.length + 2 + before.length⟩ ↔
          ∀ d ∈ before, d.utf8Size = 1) ∧
        ((∀ d ∈ before, d.utf8Size = 1) → ∃ p, p = Place.afterAll ⟨1, 0⟩ (left ++ '"' :: before) ∧
          (i.extent f).places input = (p, ⟨p.line, p.column + 1⟩)) := by
  obtain ⟨left, right, hinput, hplace⟩ := exists_of_isVerbatim hlocate hargs hverbatim
  obtain ⟨before, c, after, hvalue, hc, hposition⟩ := Position.opens_of_parse_error hparse
  have hexpand : expand tokens = .error (.template (i.extent f) (i.lineOffset.getD 0) f) := by
    simp only [expand, hargs, compile, hparse]
  have hiff := extent_eq_iff hverbatim hplace hvalue hposition
  refine ⟨hexpand, left, before, c, after, right, ?_, hvalue, hplace, hc, hposition,
    extent_of_place hverbatim hplace hposition, hiff, fun hsizes => ⟨_, rfl, ?_⟩⟩
  · rw [hinput, hvalue]
  · rw [hiff.2 hsizes, Extent.places]
    have hfront : input = (left ++ '"' :: before) ++ c :: (after ++ '"' :: right) := by
      rw [hinput, hvalue]
      simp
    have hstart : left.length + 1 + before.length = (left ++ '"' :: before).length := by
      simp
      omega
    have hstop : left.length + 2 + before.length = (left ++ '"' :: before ++ [c]).length := by
      simp
      omega
    have hline : c ≠ '\n' := by rcases hc with rfl | rfl <;> decide
    rw [hstart, hstop, hfront, Place.ofOffset_append, ← List.singleton_append (l := after ++ _),
      ← List.append_assoc _ [c], Place.ofOffset_append, Place.afterAll_append_singleton,
      Place.after, if_neg hline]

/-- A template with a choice in its second line that stays open. -/
def text : List Char := "a\nb \x7b#if x\x7d".toList

/-- The template in the second line of an argument. -/
def unclosed : List Char := "\n\"a\nb \x7b#if x\x7d\"".toList

/-- The complaint points at the brace that begins the choice, in the third line. -/
theorem expand_of_parse_error_unclosed :
    ∃ tokens i f, Code.locate? unclosed = some tokens ∧ ofTokens tokens = .ok i ∧
      i.isVerbatim = true ∧ Template.parse i.value = .error f ∧
      (i.extent f).places unclosed = (⟨3, 2⟩, ⟨3, 3⟩) ∧
      ∃ left before c after right,
        unclosed = left ++ '"' :: (before ++ c :: after ++ '"' :: right) ∧ (c = '@' ∨ c = '{') ∧
        i.extent f = ⟨left.length + 1 + before.length, left.length + 2 + before.length⟩ := by
  have hlocate : Code.locate? unclosed =
      some [⟨1, 14, .literal "\"a\nb \x7b#if x\x7d\""⟩] := by decide +kernel
  have hargs : ofTokens [⟨1, 14, .literal "\"a\nb \x7b#if x\x7d\""⟩] =
      .ok ⟨"\"a\nb \x7b#if x\x7d\"", ⟨1, 14⟩, text, none⟩ := by decide +kernel
  have hverbatim : isVerbatim ⟨"\"a\nb \x7b#if x\x7d\"", ⟨1, 14⟩, text, none⟩ = true := by
    decide +kernel
  have hparse : Template.parse text = .error ⟨⟨4, 2, 3⟩, .unclosedIf⟩ :=
    Automaton.parse_eq_error_of_map (by decide +kernel)
  have hsizes : ∀ d ∈ text, d.utf8Size = 1 := forall_mem_of_all (by decide +kernel)
  obtain ⟨-, left, before, c, after, right, hinput, hvalue, -, hc, -, -, hiff, -⟩ :=
    expand_of_parse_error hlocate hargs hverbatim hparse
  refine ⟨_, _, _, hlocate, hargs, hverbatim, hparse, by decide +kernel, left, before, c, after,
    right, hinput, hc, hiff.2 fun d hd => hsizes d ?_⟩
  change text = before ++ c :: after at hvalue
  rw [hvalue]
  exact List.mem_append_left _ hd

/-- **A complaint that is moved.** The fault is after one character of the template, where the
construct begins in the third character of the argument; the complaint points at the fourth. -/
theorem extent_accented :
    ∃ tokens i f, Code.locate? "\"é@\x7b\"".toList = some tokens ∧ ofTokens tokens = .ok i ∧
      i.isVerbatim = true ∧ Template.parse i.value = .error f ∧
      i.value = ['é', '@', '{'] ∧ f.position = Position.start.afterAll ['é'] ∧
      Extent.places ⟨2, 3⟩ "\"é@\x7b\"".toList = (⟨1, 2⟩, ⟨1, 3⟩) ∧
      (i.extent f).places "\"é@\x7b\"".toList = (⟨1, 3⟩, ⟨1, 4⟩) := by
  have hlocate : Code.locate? "\"é@\x7b\"".toList =
      some [⟨0, 5, .literal "\"é@\x7b\""⟩] := by decide +kernel
  have hargs : ofTokens [⟨0, 5, .literal "\"é@\x7b\""⟩] =
      .ok ⟨"\"é@\x7b\"", ⟨0, 5⟩, ['é', '@', '{'], none⟩ := by decide +kernel
  have hparse : Template.parse ['é', '@', '{'] = .error ⟨⟨2, 1, 2⟩, .unclosed .output⟩ :=
    Automaton.parse_eq_error_of_map (by decide +kernel)
  exact ⟨_, _, _, hlocate, hargs, by decide +kernel, hparse, rfl, rfl, by decide +kernel,
    by decide +kernel⟩

end Invocation

end TextTemplate
