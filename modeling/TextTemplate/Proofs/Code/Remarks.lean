import TextTemplate.Code.Comment

/-!
# Comments with a semicolon after them

A piece of code that is completed by a semicolon is read with one more character at its end. White
space and comments are passed over as before, unless the last of them is a line that only the end of
the text ended: then the semicolon belongs to it.

- `exists_of_append_semicolon`, `isPrefixOf_semicolon`: what a text with a semicolon begins with.
- `Comment.startsLine_eq`, `Comment.startsBlock_eq`: the beginnings of comments.
- `Comment.endsInLine`: whether a semicolon would belong to the last comment.
- `Comment.skip_semicolon`: white space and comments.
- `Comment.documentation?_semicolon`, `documentation?_semicolon_of_none`: documentation.
-/

namespace TextTemplate

/-! ## Fronts of a text -/

/-- What begins a text with a semicolon after it begins the text, if there is no semicolon in it. -/
theorem exists_of_append_semicolon {s t : List Char} (front : List Char)
    (h : s ++ [';'] = front ++ t)
    (hfront : ';' ∉ front) : ∃ r, s = front ++ r ∧ t = r ++ [';'] := by
  rcases List.append_eq_append_iff.1 h with ⟨w, rfl, hw⟩ | ⟨w, rfl, rfl⟩
  · rcases w with _ | ⟨c, w⟩
    · exact ⟨[], by simp, by simpa using hw.symm⟩
    · obtain ⟨rfl, -⟩ := List.cons.inj hw
      simp at hfront
  · exact ⟨w, rfl, rfl⟩

/-- A text that does not begin so does not begin so either with a semicolon after it. -/
theorem ne_append_semicolon {s : List Char} (front : List Char) (hfront : ';' ∉ front)
    (h : ∀ t, s = front ++ t → False) : ∀ t, s ++ [';'] = front ++ t → False := by
  intro t ht
  obtain ⟨r, hr, -⟩ := exists_of_append_semicolon front ht hfront
  exact h r hr

theorem takeWhile_semicolon {p : Char → Bool} (h : p ';' = false) (s : List Char) :
    (s ++ [';']).takeWhile p = s.takeWhile p := by
  induction s with
  | nil => simp [h]
  | cons c s ih => simp only [List.cons_append, List.takeWhile_cons, ih]

theorem dropWhile_semicolon {p : Char → Bool} (h : p ';' = false) (s : List Char) :
    (s ++ [';']).dropWhile p = s.dropWhile p ++ [';'] := by
  induction s with
  | nil => simp [h]
  | cons c s ih =>
    simp only [List.cons_append, List.dropWhile_cons, ih]
    split <;> rfl

theorem isPrefixOf_semicolon {w : List Char} (hw : ';' ∉ w) (s : List Char) :
    w.isPrefixOf (s ++ [';']) = w.isPrefixOf s := by
  induction w generalizing s with
  | nil => simp
  | cons a w ih =>
    rw [List.mem_cons, not_or] at hw
    cases s with
    | nil => simp [List.isPrefixOf, Ne.symm hw.1]
    | cons c s => simp only [List.cons_append, List.isPrefixOf, ih hw.2]

theorem isPrefixOf_eq_false {w s : List Char} (h : ∀ t, s = w ++ t → False) :
    w.isPrefixOf s = false := by
  rw [Bool.eq_false_iff]
  intro hprefix
  obtain ⟨t, ht⟩ := List.isPrefixOf_iff_prefix.1 hprefix
  exact h t ht.symm

namespace Comment

/-! ## Beginnings and ends of comments -/

/-- A line comment is one with four slashes, or with two and neither a third nor a `!`. -/
theorem startsLine_eq (s : List Char) : startsLine s = (['/', '/'].isPrefixOf s &&
    (['/', '/', '/', '/'].isPrefixOf s ||
      (!(['/', '/', '/'].isPrefixOf s) && !(['/', '/', '!'].isPrefixOf s)))) := by
  fun_cases startsLine s
  case case1 | case3 => simp [List.isPrefixOf]
  case case2 t h => simp [List.isPrefixOf, isPrefixOf_eq_false (w := ['/']) h]
  case case4 t _ h h' =>
    simp [List.isPrefixOf, isPrefixOf_eq_false (w := ['/']) h, isPrefixOf_eq_false (w := ['!']) h']
  case case5 h => rw [isPrefixOf_eq_false (w := ['/', '/']) h, Bool.false_and]

theorem startsBlock_eq (s : List Char) : startsBlock s = (['/', '*'].isPrefixOf s &&
    (['/', '*', '*', '/'].isPrefixOf s || ['/', '*', '*', '*'].isPrefixOf s ||
      (!(['/', '*', '*'].isPrefixOf s) && !(['/', '*', '!'].isPrefixOf s)))) := by
  fun_cases startsBlock s
  case case1 | case2 | case4 => simp [List.isPrefixOf]
  case case3 t h h' =>
    simp [List.isPrefixOf, isPrefixOf_eq_false (w := ['/']) h, isPrefixOf_eq_false (w := ['*']) h']
  case case5 t _ _ h h' =>
    simp [List.isPrefixOf, isPrefixOf_eq_false (w := ['*']) h, isPrefixOf_eq_false (w := ['!']) h']
  case case6 h => rw [isPrefixOf_eq_false (w := ['/', '*']) h, Bool.false_and]

theorem startsLine_semicolon (s : List Char) : startsLine (s ++ [';']) = startsLine s := by
  rw [startsLine_eq, startsLine_eq, isPrefixOf_semicolon (by decide),
    isPrefixOf_semicolon (by decide), isPrefixOf_semicolon (by decide),
    isPrefixOf_semicolon (by decide)]

theorem startsBlock_semicolon (s : List Char) : startsBlock (s ++ [';']) = startsBlock s := by
  rw [startsBlock_eq, startsBlock_eq, isPrefixOf_semicolon (by decide),
    isPrefixOf_semicolon (by decide), isPrefixOf_semicolon (by decide),
    isPrefixOf_semicolon (by decide), isPrefixOf_semicolon (by decide)]

/-- A line that the text ends with goes on. -/
theorem line_semicolon (s : List Char) : line (s ++ [';']) =
    if (line s).2 = [] then ((line s).1 ++ [';'], []) else ((line s).1, (line s).2 ++ [';']) := by
  fun_induction line s with
  | case1 => rfl
  | case2 => rfl
  | case3 => rfl
  | case4 c s hfeed hreturn l r h ih =>
    have hstep : line (c :: (s ++ [';'])) = (c :: (line (s ++ [';'])).1, (line (s ++ [';'])).2) :=
      line.eq_4 c _ hfeed fun t hc =>
        ne_append_semicolon ['\n'] (by decide) (fun r => hreturn r hc) t
    rw [List.cons_append, hstep, ih, h]
    dsimp only
    split <;> rfl

theorem dropBlock?_semicolon (depth : Nat) (s : List Char) :
    dropBlock? depth (s ++ [';']) = (dropBlock? depth s).map (· ++ [';']) := by
  fun_induction dropBlock? depth s with
  | case1 s => rw [dropBlock?]; rfl
  | case2 depth s ih => rw [List.cons_append, List.cons_append, dropBlock?, ih]
  | case3 depth s ih => rw [List.cons_append, List.cons_append, dropBlock?, ih]
  | case4 depth c s hopen hclose ih =>
    rw [List.cons_append, dropBlock?, ih]
    · exact fun t hc => ne_append_semicolon ['*'] (by decide) (fun r => hopen r hc) t
    · exact fun t hc => ne_append_semicolon ['/'] (by decide) (fun r => hclose r hc) t
  | case5 depth => rfl

/-! ## White space and comments -/

/-- Whether the white space and comments of a text end in a line comment that nothing but the end of
the text closes. -/
def endsInLine : List Char → Bool
  | [] => false
  | c :: s =>
    if startsLine (c :: s) then (line s).2.isEmpty || endsInLine (line s).2
    else if startsBlock (c :: s) then
      match _h : dropBlock? 1 (s.drop 1) with
      | some r => endsInLine r
      | none => false
    else isGap c && endsInLine s
termination_by s => s.length
decreasing_by
  · have := length_line s
    simp
    omega
  · have := length_dropBlock? _h
    simp at *
    omega
  · simp

theorem dropBlock?_drop_semicolon {c : Char} {s : List Char} (h : startsBlock (c :: s) = true) :
    dropBlock? 1 ((s ++ [';']).drop 1) = (dropBlock? 1 (s.drop 1)).map (· ++ [';']) := by
  rw [startsBlock_eq, Bool.and_eq_true] at h
  obtain ⟨t, ht⟩ := List.isPrefixOf_iff_prefix.1 h.1
  obtain ⟨-, rfl⟩ := List.cons.inj ht
  exact dropBlock?_semicolon 1 t

theorem skip_line {c : Char} {s : List Char} (h : startsLine (c :: s) = true) :
    skip (c :: s) = skip (line s).2 := by
  rw [skip, if_pos h]

theorem skip_block {c : Char} {s : List Char} (hline : ¬ startsLine (c :: s) = true)
    (hblock : startsBlock (c :: s) = true) :
    skip (c :: s) = ((dropBlock? 1 (s.drop 1)).map skip).getD (c :: s) := by
  rw [skip, if_neg hline, if_pos hblock]
  split
  · next hr =>
    rw [hr]
    rfl
  · next hr =>
    rw [hr]
    rfl

theorem skip_char {c : Char} {s : List Char} (hline : ¬ startsLine (c :: s) = true)
    (hblock : ¬ startsBlock (c :: s) = true) :
    skip (c :: s) = if isGap c then skip s else c :: s := by
  rw [skip, if_neg hline, if_neg hblock]

theorem skip_nil : skip [] = [] := by rw [skip]

theorem skip_mark : skip [';'] = [';'] := skip_char (by decide) (by decide)

/-- A semicolon after a text is what white space and comments leave of it, unless it belongs to the
last comment. -/
theorem skip_semicolon (s : List Char) :
    skip (s ++ [';']) = if endsInLine s then [] else skip s ++ [';'] := by
  have hline (c : Char) (s : List Char) : startsLine (c :: (s ++ [';'])) = startsLine (c :: s) :=
    startsLine_semicolon (c :: s)
  have hblock (c : Char) (s : List Char) : startsBlock (c :: (s ++ [';'])) = startsBlock (c :: s) :=
    startsBlock_semicolon (c :: s)
  fun_induction endsInLine s with
  | case1 =>
    rw [List.nil_append, skip_mark, skip_nil]
    rfl
  | case2 c s h ih =>
    rw [List.cons_append, skip_line ((hline c s).trans h), skip_line h, line_semicolon]
    by_cases hend : (line s).2 = []
    · simp [hend, skip]
    · rw [if_neg hend, ih]
      simp [hend]
  | case3 c s h hs r hr ih =>
    rw [List.cons_append, skip_block (by rwa [hline]) ((hblock c s).trans hs), skip_block h hs,
      dropBlock?_drop_semicolon hs, hr]
    exact ih
  | case4 c s h hs hr =>
    rw [List.cons_append, skip_block (by rwa [hline]) ((hblock c s).trans hs), skip_block h hs,
      dropBlock?_drop_semicolon hs, hr]
    rfl
  | case5 c s h hs ih =>
    rw [List.cons_append, skip_char (by rwa [hline]) (by rwa [hblock]), skip_char h hs]
    cases hgap : isGap c
    · rfl
    · simpa using ih

/-- Only white space and comments stand before the end of such a text. -/
theorem skip_of_endsInLine {s : List Char} (h : endsInLine s = true) : skip s = [] := by
  fun_induction endsInLine s with
  | case1 => cases h
  | case2 c s hline ih =>
    rw [skip_line hline]
    rcases Bool.or_eq_true_iff.1 h with hend | hend
    · rw [List.isEmpty_iff.1 hend, skip_nil]
    · exact ih hend
  | case3 c s hline hblock r hr ih =>
    rw [skip_block hline hblock, hr]
    exact ih h
  | case4 => cases h
  | case5 c s hline hblock ih =>
    obtain ⟨hgap, hend⟩ := Bool.and_eq_true_iff.1 h
    rw [skip_char hline hblock, if_pos hgap]
    exact ih hend

/-- What is left of a text is left of it with a semicolon after it. -/
theorem skip_semicolon_of_ne_nil {s : List Char} (h : skip s ≠ []) :
    skip (s ++ [';']) = skip s ++ [';'] := by
  rw [skip_semicolon, if_neg fun hend => h (skip_of_endsInLine hend)]

/-! ## Documentation -/

theorem hasLineEndsOnly_cons {c : Char} (h : c ≠ '\r') (s : List Char) :
    hasLineEndsOnly (c :: s) = hasLineEndsOnly s :=
  hasLineEndsOnly.eq_3 c s (fun _ hc _ => h hc) h

theorem hasLineEndsOnly_semicolon (s : List Char) :
    hasLineEndsOnly (s ++ [';']) = hasLineEndsOnly s := by
  fun_induction hasLineEndsOnly s with
  | case1 s ih => exact ih
  | case2 s h => exact hasLineEndsOnly.eq_2 _ (ne_append_semicolon ['\n'] (by decide) h)
  | case3 c s h h' ih => rw [List.cons_append, hasLineEndsOnly_cons h', ih]
  | case4 => rfl

theorem documentation?_outerLine {t : List Char} (h : ∀ r, t = '/' :: r → False) :
    documentation? ('/' :: '/' :: '/' :: t) =
      (documentationLine false t).filter fun (d, _) => hasLineEndsOnly d.text := by
  rw [documentation?.eq_def]
  split
  · next heq => cases heq
  · next r heq => exact (h r (by simpa using heq)).elim
  · next heq =>
    cases heq
    rfl
  · next heq => cases heq
  · next heq => cases heq
  · next heq => cases heq
  · next h₃ _ _ _ => exact (h₃ t rfl).elim

theorem documentation?_outerBlock {t : List Char} (h : ∀ r, t = '*' :: r → False) :
    documentation? ('/' :: '*' :: '*' :: t) =
      (documentationBlock false '*' t).filter fun (d, _) => hasLineEndsOnly d.text := by
  rw [documentation?.eq_def]
  split
  · next heq => cases heq
  · next heq => cases heq
  · next heq => cases heq
  · next heq => cases heq
  · next r heq => exact (h r (by simpa using heq)).elim
  · next heq =>
    cases heq
    rfl
  · next h₆ => exact (h₆ t rfl).elim

theorem documentation?_eq_none_of_prefix {s : List Char}
    (hline : ∀ c ∈ ['!', '/'], ∀ t, s = '/' :: '/' :: c :: t → False)
    (hblock : ∀ c ∈ ['!', '*'], ∀ t, s = '/' :: '*' :: c :: t → False) :
    documentation? s = none := by
  rw [documentation?.eq_def]
  split
  · next t => exact (hline '!' (by simp) t rfl).elim
  · rfl
  · next t _ => exact (hline '/' (by simp) t rfl).elim
  · next t => exact (hblock '!' (by simp) t rfl).elim
  · rfl
  · next t _ => exact (hblock '*' (by simp) t rfl).elim
  · rfl

/-- What makes a comment documentation stands in its first characters, so that it is the same with a
semicolon after the text. -/
theorem documentation?_cases (s : List Char) :
    (∃ inner t, ['/', '/'].isPrefixOf s = true ∧ ∀ x ∈ [[], [';']], documentation? (s ++ x) =
        (documentationLine inner (t ++ x)).filter fun (d, _) => hasLineEndsOnly d.text) ∨
    (∃ inner third t, ['/', '*'].isPrefixOf s = true ∧ ∀ x ∈ [[], [';']], documentation? (s ++ x) =
        (documentationBlock inner third (t ++ x)).filter fun (d, _) => hasLineEndsOnly d.text) ∨
    ∀ x ∈ [[], [';']], documentation? (s ++ x) = none := by
  have hfront (front : List Char) (hfront : ';' ∉ front) {s x : List Char} (hx : x ∈ [[], [';']])
      (h : ∀ r, s = front ++ r → False) : ∀ r, s ++ x = front ++ r → False := by
    simp only [List.mem_cons, List.not_mem_nil, or_false] at hx
    rcases hx with rfl | rfl
    · rwa [List.append_nil]
    · exact ne_append_semicolon front hfront h
  generalize hfound : documentation? s = found
  rw [documentation?.eq_def] at hfound
  split at hfound
  · next t => exact .inl ⟨true, t, rfl, fun x _ => rfl⟩
  · exact .inr (.inr fun x _ => rfl)
  · next t h =>
    exact .inl ⟨false, t, rfl, fun x hx =>
      documentation?_outerLine (hfront ['/'] (by decide) hx h)⟩
  · next t => exact .inr (.inl ⟨true, '!', t, rfl, fun x _ => rfl⟩)
  · exact .inr (.inr fun x _ => rfl)
  · next t h =>
    exact .inr (.inl ⟨false, '*', t, rfl, fun x hx =>
      documentation?_outerBlock (hfront ['*'] (by decide) hx h)⟩)
  · next hline₁ _ hline₂ hblock₁ _ hblock₂ =>
    refine .inr (.inr fun x hx => documentation?_eq_none_of_prefix ?_ ?_)
    · simp only [List.forall_mem_cons]
      exact ⟨hfront ['/', '/', '!'] (by decide) hx hline₁,
        hfront ['/', '/', '/'] (by decide) hx hline₂, List.forall_mem_nil _⟩
    · simp only [List.forall_mem_cons]
      exact ⟨hfront ['/', '*', '!'] (by decide) hx hblock₁,
        hfront ['/', '*', '*'] (by decide) hx hblock₂, List.forall_mem_nil _⟩

theorem documentationBlock_semicolon (inner : Bool) (third : Char) (t : List Char) :
    documentationBlock inner third (t ++ [';']) =
      (documentationBlock inner third t).map fun (d, r) => (d, r ++ [';']) := by
  have hdrop : dropBlock? 1 (third :: (t ++ [';'])) =
      (dropBlock? 1 (third :: t)).map (· ++ [';']) := dropBlock?_semicolon 1 (third :: t)
  rw [documentationBlock, documentationBlock, hdrop, Option.map_map, Option.map_map]
  refine Option.map_congr fun r _ => ?_
  have hlength : (t ++ [';']).length - (r ++ [';']).length - 2 = t.length - r.length - 2 := by
    simp
  simp only [Function.comp_apply, hlength]
  rw [List.take_append_of_le_length (by omega)]

/-- A text with a semicolon after it begins with no other documentation. -/
theorem documentation?_semicolon_of_none {s : List Char} (h : documentation? s = none) :
    documentation? (s ++ [';']) = none := by
  rcases documentation?_cases s with ⟨inner, t, -, hx⟩ | ⟨inner, third, t, -, hx⟩ | hx
  · have hnil := hx [] (by simp)
    rw [List.append_nil, List.append_nil, h] at hnil
    rw [hx [';'] (by simp), documentationLine, line_semicolon]
    simp only [documentationLine, Option.filter_some] at hnil ⊢
    have hno : hasLineEndsOnly (line t).1 = false := by
      cases hends : hasLineEndsOnly (line t).1 with
      | false => rfl
      | true =>
        rw [if_pos hends] at hnil
        cases hnil
    split
    · rw [hasLineEndsOnly_semicolon, hno, if_neg Bool.false_ne_true]
    · rw [hno, if_neg Bool.false_ne_true]
  · have hnil := hx [] (by simp)
    rw [List.append_nil, List.append_nil, h] at hnil
    rw [hx [';'] (by simp), documentationBlock_semicolon, Option.filter_map]
    exact congrArg _ hnil.symm
  · exact hx [';'] (by simp)

/-- Documentation is read as before, unless it is a line that nothing but the end of the text
ends. -/
theorem documentation?_semicolon {s r : List Char} {d : Documentation}
    (h : documentation? s = some (d, r)) (hr : ['/', '/'].isPrefixOf s = true → r ≠ []) :
    documentation? (s ++ [';']) = some (d, r ++ [';']) := by
  rcases documentation?_cases s with ⟨inner, t, hline, hx⟩ | ⟨inner, third, t, -, hx⟩ | hx
  · have hnil := hx [] (by simp)
    rw [List.append_nil, List.append_nil, h, documentationLine] at hnil
    obtain ⟨hpair, hends⟩ := Option.filter_eq_some_iff.1 hnil.symm
    obtain ⟨rfl, rfl⟩ := Prod.mk.inj (Option.some.inj hpair)
    rw [hx [';'] (by simp), documentationLine, line_semicolon, if_neg (hr hline)]
    exact Option.filter_eq_some_iff.2 ⟨rfl, hends⟩
  · have hnil := hx [] (by simp)
    rw [List.append_nil, List.append_nil, h] at hnil
    rw [hx [';'] (by simp), documentationBlock_semicolon, Option.filter_map]
    exact congrArg _ hnil.symm
  · have hnil := hx [] (by simp)
    rw [List.append_nil, h] at hnil
    cases hnil

/-- A semicolon after a line of documentation that nothing but the end of the text ends belongs to
it. -/
theorem exists_documentation?_semicolon {s : List Char} {d : Documentation}
    (h : documentation? s = some (d, [])) (hline : ['/', '/'].isPrefixOf s = true) :
    ∃ d', documentation? (s ++ [';']) = some (d', []) := by
  rcases documentation?_cases s with ⟨inner, t, -, hx⟩ | ⟨inner, third, t, hblock, -⟩ | hx
  · have hnil := hx [] (by simp)
    rw [List.append_nil, List.append_nil, h, documentationLine] at hnil
    obtain ⟨hpair, hends⟩ := Option.filter_eq_some_iff.1 hnil.symm
    obtain ⟨rfl, hrest⟩ := Prod.mk.inj (Option.some.inj hpair)
    refine ⟨⟨inner, (line t).1 ++ [';']⟩, ?_⟩
    rw [hx [';'] (by simp), documentationLine, line_semicolon, if_pos hrest]
    exact Option.filter_eq_some_iff.2 ⟨rfl, (hasLineEndsOnly_semicolon _).trans hends⟩
  · obtain ⟨u, rfl⟩ := List.isPrefixOf_iff_prefix.1 hline
    cases hblock
  · have hnil := hx [] (by simp)
    rw [List.append_nil, h] at hnil
    cases hnil

end Comment
end TextTemplate
