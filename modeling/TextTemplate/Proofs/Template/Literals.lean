import TextTemplate.Code.StringLiteral
import TextTemplate.Template.Braced

/-!
# Where literals end

Code is split into tokens by one reader, and text in braces is read by another one that knows less of
it. Where both see the beginning of the same literal they agree about its end.

- `Opening.Ends`: a text is a literal up to its end, whatever follows.
- `ends_close`, `Ends.escape`, `Ends.after`: literals in quotes, character by character.
- `StringLiteral.exists_of_escape?`, `exists_of_dropIndent?`: what a backslash takes along besides
  the next character is neither a quote nor a backslash.
- `exists_of_body?`, `exists_of_rawBody?`, `exists_of_characterBody?`: the ends of the three kinds
  of literals.
-/

namespace TextTemplate

/-- All characters of a text have a property if a walk over the text says so. -/
theorem forall_mem_of_all {p : Char → Prop} [DecidablePred p] {w : List Char}
    (h : w.all (fun c => decide (p c)) = true) : ∀ c ∈ w, p c :=
  fun c hc => of_decide_eq_true (List.all_eq_true.1 h c hc)

namespace Opening

/-- What follows the first character of a literal, if the literal ends with it. -/
def Ends (o : Opening) (t : List Char) : Prop := ∀ r, o.split? (t ++ r) = some (t, r)

section

variable {close c : Char} {t : List Char}

theorem splitQuoted?_cons (hc : c ≠ '\\') (s : List Char) : splitQuoted? close (c :: s) =
    if c = close then some ([c], s)
    else (splitQuoted? close s).map fun (t, r) => (c :: t, r) := by
  rw [splitQuoted?.eq_def]
  split
  · next heq => exact absurd heq (List.cons_ne_nil _ _)
  · next heq => exact absurd (List.cons.inj heq).1 hc
  · next heq => exact absurd (List.cons.inj heq).1 hc
  · next heq =>
    obtain ⟨rfl, rfl⟩ := List.cons.inj heq
    rfl

/-- The closing quote ends a literal. -/
theorem ends_close (h : close ≠ '\\') : (quoted close).Ends [close] := by
  intro r
  show splitQuoted? close (close :: r) = _
  rw [splitQuoted?_cons h, if_pos rfl]

/-- A backslash takes the next character along. -/
theorem Ends.escape (h : (quoted close).Ends t) (d : Char) :
    (quoted close).Ends ('\\' :: d :: t) := by
  intro r
  have hr : splitQuoted? close (t ++ r) = some (t, r) := h r
  show splitQuoted? close ('\\' :: d :: (t ++ r)) = _
  rw [splitQuoted?, hr]
  rfl

/-- Characters that are neither backslashes nor the closing quote go on with a literal. -/
theorem Ends.after {w : List Char} (h : (quoted close).Ends t)
    (hw : ∀ c ∈ w, c ≠ '\\' ∧ c ≠ close) : (quoted close).Ends (w ++ t) := by
  induction w with
  | nil => exact h
  | cons c w ih =>
    obtain ⟨hc, hw⟩ := List.forall_mem_cons.1 hw
    intro r
    have hr : splitQuoted? close (w ++ t ++ r) = some (w ++ t, r) := ih hw r
    show splitQuoted? close (c :: (w ++ t ++ r)) = _
    rw [splitQuoted?_cons hc.1, if_neg hc.2, hr]
    rfl

/-- Nothing but the closing quote ends a literal. -/
theorem exists_of_splitQuoted? {s t r : List Char} (h : splitQuoted? close s = some (t, r)) :
    ∃ w, t = w ++ [close] := by
  fun_induction splitQuoted? close s generalizing t with
  | case1 => cases h
  | case2 => cases h
  | case3 d s ih =>
    simp only [Option.map_eq_some_iff, Prod.exists, Prod.mk.injEq] at h
    obtain ⟨u, _, hu, rfl, rfl⟩ := h
    obtain ⟨w, rfl⟩ := ih hu
    exact ⟨'\\' :: d :: w, rfl⟩
  | case4 =>
    obtain ⟨rfl, -⟩ := Prod.mk.inj (Option.some.inj h)
    exact ⟨[], rfl⟩
  | case5 d s _ _ _ ih =>
    simp only [Option.map_eq_some_iff, Prod.exists, Prod.mk.injEq] at h
    obtain ⟨u, _, hu, rfl, rfl⟩ := h
    obtain ⟨w, rfl⟩ := ih hu
    exact ⟨d :: w, rfl⟩

theorem Ends.exists_close (h : (quoted close).Ends t) : ∃ w, t = w ++ [close] := by
  have hnil := h []
  exact exists_of_splitQuoted? hnil

end

/-! ## Raw literals -/

theorem startsHashes_append {n : Nat} {s : List Char} (h : n ≤ s.length) (r : List Char) :
    StringLiteral.startsHashes n (s ++ r) = StringLiteral.startsHashes n s := by
  induction n generalizing s with
  | zero => rfl
  | succ n ih =>
    match s, h with
    | c :: s, h =>
      by_cases hc : c = '#'
      · subst hc
        exact ih (Nat.le_of_succ_le_succ h)
      · simp [StringLiteral.startsHashes, hc]

theorem startsHashes_replicate (n : Nat) (r : List Char) :
    StringLiteral.startsHashes n (List.replicate n '#' ++ r) = true := by
  induction n with
  | zero => rfl
  | succ n ih => exact ih

theorem eq_of_startsHashes {n : Nat} {s : List Char}
    (h : StringLiteral.startsHashes n s = true) :
    s = List.replicate n '#' ++ s.drop n := by
  induction n generalizing s with
  | zero => rfl
  | succ n ih =>
    match s, h with
    | c :: s, h =>
      by_cases hc : c = '#'
      · subst hc
        exact congrArg ('#' :: ·) (ih h)
      · simp [StringLiteral.startsHashes, hc] at h

theorem hashes?_hash_cons (s : List Char) : hashes? ('#' :: s) = (hashes? s).map (· + 1) := by
  simp only [hashes?, List.takeWhile_cons, beq_self_eq_true, if_true, List.length_cons,
    List.drop_succ_cons]
  split <;> rfl

/-- The `#` after an `r` are counted up to the quote. -/
theorem hashes?_replicate (n : Nat) (s : List Char) :
    hashes? (List.replicate n '#' ++ '"' :: s) = some n := by
  have hrun : (List.replicate n '#' ++ '"' :: s).takeWhile (· == '#') = List.replicate n '#' := by
    rw [List.takeWhile_append_of_pos (by simp)]
    simp
  rw [hashes?, hrun, List.length_replicate, List.drop_left' (List.length_replicate ..)]
  rfl

end Opening

namespace StringLiteral

open Opening

/-! ## Escapes -/

/-- Characters that may stand in the middle of an escape. -/
def Inert (c : Char) : Prop := c ∉ ['\\', '"', '\'']

instance (c : Char) : Decidable (Inert c) := inferInstanceAs (Decidable (¬ _))

theorem inert_of_digit? {c : Char} {n : Nat} (h : Number.digit? c = some n) : Inert c := by
  intro hc
  have hnone : ∀ c ∈ ['\\', '"', '\''], Number.digit? c = none :=
    forall_mem_of_all (by decide)
  exact absurd (h.symm.trans (hnone c hc)) (Option.some_ne_none n)

theorem exists_of_hexPair? {s r : List Char} {n : Nat} (h : hexPair? s = some (n, r)) :
    ∃ w, s = w ++ r ∧ ∀ c ∈ w, Inert c := by
  rw [hexPair?.eq_def] at h
  split at h
  · next a b s =>
    split at h
    · next ha hb =>
      obtain ⟨-, rfl⟩ := Prod.mk.inj (Option.some.inj h)
      refine ⟨[a, b], rfl, ?_⟩
      simp only [List.forall_mem_cons]
      exact ⟨inert_of_digit? ha, inert_of_digit? hb, List.forall_mem_nil _⟩
    · cases h
  · cases h

theorem exists_of_scalarDigits? {k m n : Nat} {s r : List Char}
    (h : scalarDigits? k m s = some (n, r)) : ∃ w, s = w ++ r ∧ ∀ c ∈ w, Inert c := by
  have hcons {c : Char} {s : List Char} (hc : Inert c) (hs : ∃ w, s = w ++ r ∧ ∀ c ∈ w, Inert c) :
      ∃ w, c :: s = w ++ r ∧ ∀ c ∈ w, Inert c := by
    obtain ⟨w, rfl, hw⟩ := hs
    exact ⟨c :: w, rfl, List.forall_mem_cons.2 ⟨hc, hw⟩⟩
  fun_induction scalarDigits? k m s with
  | case1 => cases h
  | case2 => cases h
  | case3 _ _ _ _ _ hd _ ih => exact hcons (inert_of_digit? hd) (ih h)
  | case4 => cases h
  | case5 _ _ c _ _ _ hc ih =>
    obtain rfl : c = '_' := eq_of_beq hc
    exact hcons (by decide) (ih h)
  | case6 _ _ c _ _ _ _ hc =>
    obtain rfl : c = '}' := eq_of_beq hc
    obtain ⟨-, rfl⟩ := Prod.mk.inj (Option.some.inj h)
    exact hcons (by decide) ⟨[], rfl, List.forall_mem_nil _⟩
  | case7 => cases h

/-- An escape is one character, and after that nothing that ends a literal or escapes. -/
theorem exists_of_escape? {d : Dialect} {s r : List Char} {c : Char}
    (h : escape? d s = some (c, r)) : ∃ e w, s = e :: (w ++ r) ∧ ∀ c ∈ w, Inert c := by
  have hshort (e : Char) {s : List Char} {x : Char} (hs : some (x, s) = some (c, r)) :
      ∃ e' w, e :: s = e' :: (w ++ r) ∧ ∀ c ∈ w, Inert c := by
    obtain ⟨-, rfl⟩ := Prod.mk.inj (Option.some.inj hs)
    exact ⟨e, [], rfl, List.forall_mem_nil _⟩
  revert h
  fun_cases escape? d s
  case case1 | case2 | case3 | case4 | case5 | case6 | case7 => exact hshort _
  case case9 s n s' hs hbyte =>
    intro h
    obtain ⟨-, rfl⟩ := Prod.mk.inj (Option.some.inj h)
    obtain ⟨w, rfl, hw⟩ := exists_of_hexPair? hs
    exact ⟨'x', w, rfl, hw⟩
  case case12 s n s' hs e he hscalar =>
    intro h
    obtain ⟨-, rfl⟩ := Prod.mk.inj (Option.some.inj h)
    obtain ⟨w, rfl, hw⟩ := exists_of_scalarDigits? hs
    exact ⟨'u', '{' :: w, rfl, List.forall_mem_cons.2 ⟨by decide, hw⟩⟩
  all_goals exact fun h => absurd h.symm (Option.some_ne_none _)

/-- What is passed over after a line end is blank. -/
theorem exists_of_dropIndent? {s r : List Char} (h : dropIndent? s = some r) :
    ∃ w, s = w ++ r ∧ ∀ c ∈ w, Inert c := by
  fun_induction dropIndent? s with
  | case1 => cases h
  | case2 s ih =>
    obtain ⟨w, rfl, hw⟩ := ih h
    exact ⟨'\r' :: '\n' :: w, rfl, by simpa using ⟨by decide, by decide, hw⟩⟩
  | case3 => cases h
  | case4 c s _ _ hc ih =>
    obtain ⟨w, rfl, hw⟩ := ih h
    have hinert : Inert c := by
      simp only [Bool.or_eq_true, beq_iff_eq] at hc
      obtain (rfl | rfl) | rfl := hc <;> decide
    exact ⟨c :: w, rfl, List.forall_mem_cons.2 ⟨hinert, hw⟩⟩
  | case5 c s _ _ hc =>
    obtain rfl := Option.some.inj h
    exact ⟨[], rfl, List.forall_mem_nil _⟩

/-- A line end after a backslash is taken along, and the blank space after it. -/
theorem exists_of_lineEnd {s r : List Char} (hstart : startsLineEnd s = true)
    (h : dropIndent? s = some r) : ∃ e w, s = e :: (w ++ r) ∧ ∀ c ∈ w, Inert c := by
  rw [startsLineEnd.eq_def] at hstart
  split at hstart
  · next s =>
    obtain ⟨w, rfl, hw⟩ := exists_of_dropIndent? (s := s) (by simpa [dropIndent?] using h)
    exact ⟨'\n', w, rfl, hw⟩
  · next s =>
    obtain ⟨w, rfl, hw⟩ := exists_of_dropIndent? (s := s) (by simpa [dropIndent?] using h)
    exact ⟨'\r', '\n' :: w, rfl, List.forall_mem_cons.2 ⟨by decide, hw⟩⟩
  · exact absurd hstart Bool.false_ne_true

/-! ## Literals in quotes -/

/-- What a backslash takes along goes on with a literal. -/
theorem ends_escape {close : Char} (hclose : close = '"' ∨ close = '\'') (e : Char)
    {w t : List Char} (hw : ∀ c ∈ w, Inert c) (h : (quoted close).Ends t) :
    (quoted close).Ends ('\\' :: e :: (w ++ t)) := by
  refine Ends.escape (h.after fun c hc => ?_) e
  have hinert := hw c hc
  simp only [Inert, List.mem_cons, not_or] at hinert
  refine ⟨hinert.1, ?_⟩
  rcases hclose with rfl | rfl
  · exact hinert.2.1
  · exact hinert.2.2.1

/-- A literal in double quotes ends where the reader of text in braces sees its end. -/
theorem exists_of_body? {d : Dialect} {s v r : List Char} (h : body? d s = some (v, r)) :
    ∃ t, s = t ++ r ∧ (quoted '"').Ends t := by
  fun_induction body? d s generalizing v with
  | case1 => cases h
  | case2 s =>
    obtain ⟨-, rfl⟩ := Prod.mk.inj (Option.some.inj h)
    exact ⟨['"'], rfl, ends_close (by decide)⟩
  | case3 s ih =>
    simp only [Option.map_eq_some_iff, Prod.exists, Prod.mk.injEq] at h
    obtain ⟨v, r, hv, -, rfl⟩ := h
    obtain ⟨t, rfl, ht⟩ := ih hv
    exact ⟨'\r' :: '\n' :: t, rfl, ht.after (w := ['\r', '\n']) (by simp)⟩
  | case4 => cases h
  | case5 s hstart s' hs' _ ih =>
    obtain ⟨e, w, rfl, hw⟩ := exists_of_lineEnd hstart hs'
    obtain ⟨t, rfl, ht⟩ := ih h
    exact ⟨'\\' :: e :: (w ++ t), by simp, ends_escape (.inl rfl) e hw ht⟩
  | case6 => cases h
  | case7 s _ c s' hs' _ ih =>
    simp only [Option.map_eq_some_iff, Prod.exists, Prod.mk.injEq] at h
    obtain ⟨v, r, hv, -, rfl⟩ := h
    obtain ⟨e, w, rfl, hw⟩ := exists_of_escape? hs'
    obtain ⟨t, rfl, ht⟩ := ih hv
    exact ⟨'\\' :: e :: (w ++ t), by simp, ends_escape (.inl rfl) e hw ht⟩
  | case8 => cases h
  | case9 c s hquote _ _ hback _ ih =>
    simp only [Option.map_eq_some_iff, Prod.exists, Prod.mk.injEq] at h
    obtain ⟨v, r, hv, -, rfl⟩ := h
    obtain ⟨t, rfl, ht⟩ := ih hv
    exact ⟨c :: t, rfl, ht.after (w := [c]) (by simpa using ⟨hback, hquote⟩)⟩
  | case10 => cases h

/-- So does a character literal, which the reader takes for one. Only the quote itself, without a
backslash, would end it too early. -/
theorem exists_of_characterBody? {d : Dialect} {s r : List Char} {c : Char}
    (h : characterBody? d s = some (c, r)) :
    ∃ t, s = t ++ r ∧ (∀ x, startsCharacter (t ++ x) = true) ∧
      (t.head? ≠ some '\'' → (quoted '\'').Ends t) := by
  have hclose : (quoted '\'').Ends ['\''] := ends_close (by decide)
  rw [characterBody?.eq_def] at h
  split at h
  · next s =>
    split at h
    · next c' r' hs =>
      obtain ⟨-, rfl⟩ := Prod.mk.inj (Option.some.inj h)
      obtain ⟨e, w, rfl, hw⟩ := exists_of_escape? hs
      exact ⟨'\\' :: e :: (w ++ ['\'']), by simp, fun x => rfl,
        fun _ => ends_escape (.inr rfl) e hw hclose⟩
    · cases h
  · next c' r' hback =>
    split at h
    · obtain ⟨-, rfl⟩ := Prod.mk.inj (Option.some.inj h)
      refine ⟨[c', '\''], rfl, fun x => ?_, fun hquote => ?_⟩
      · rw [startsCharacter.eq_def]
        split
        · rfl
        · rfl
        · next hno => exact absurd rfl (hno c' x)
      · refine hclose.after (w := [c']) ?_
        simpa using ⟨hback, fun hc => hquote (by rw [hc]; rfl)⟩
    · cases h
  · cases h

/-- A byte is written like a character after its letter. -/
theorem exists_of_character? {s r : List Char} {c : Char} (h : character? s = some (c, r)) :
    ∃ p ∈ [[], ['b']], ∃ t, s = p ++ '\'' :: t ++ r ∧
      (∀ x, startsCharacter (t ++ x) = true) ∧ (t.head? ≠ some '\'' → (quoted '\'').Ends t) := by
  rw [character?.eq_def] at h
  split at h
  · obtain ⟨t, rfl, hstart, ht⟩ := exists_of_characterBody? h
    exact ⟨[], by simp, t, by simp, hstart, ht⟩
  · obtain ⟨t, rfl, hstart, ht⟩ := exists_of_characterBody? h
    exact ⟨['b'], by simp, t, by simp, hstart, ht⟩
  · cases h

/-! ## Raw literals -/

theorem splitRaw?_cons {n : Nat} {c : Char} {s : List Char}
    (h : ¬ (c == '"' && startsHashes n s) = true) :
    splitRaw? n (c :: s) = (splitRaw? n s).map fun (t, r) => (c :: t, r) := by
  rw [splitRaw?]
  split
  · next hc =>
    simp only [Bool.and_eq_true, decide_eq_true_eq] at hc
    exact absurd (by simpa using hc) h
  · rfl

/-- Whether a quote ends a raw literal depends on the `#` after it, but not on what follows the end of
the literal. -/
theorem splitRaw?_after {n : Nat} {c : Char} {b r : List Char}
    (hc : ¬ (c == '"' && startsHashes n (b ++ '"' :: (List.replicate n '#' ++ r))) = true)
    (hb : ∀ x, splitRaw? n (b ++ '"' :: (List.replicate n '#' ++ x)) =
      some (b ++ '"' :: List.replicate n '#', x)) (x : List Char) :
    splitRaw? n (c :: b ++ '"' :: (List.replicate n '#' ++ x)) =
      some (c :: b ++ '"' :: List.replicate n '#', x) := by
  have hlen : n ≤ (b ++ '"' :: List.replicate n '#').length := by simp; omega
  have hsame : startsHashes n (b ++ '"' :: (List.replicate n '#' ++ x)) =
      startsHashes n (b ++ '"' :: (List.replicate n '#' ++ r)) := by
    have hx := startsHashes_append hlen x
    have hr := startsHashes_append hlen r
    rw [List.append_assoc, List.cons_append] at hx hr
    rw [hx, hr]
  rw [← hsame] at hc
  rw [List.cons_append, splitRaw?_cons hc, hb x]
  rfl

/-- The inside of a raw literal goes on up to a quote with the `#` after it, and both readers see the
same one. -/
theorem exists_of_rawBody? {d : Dialect} {n : Nat} {s v r : List Char}
    (h : rawBody? d n s = some (v, r)) :
    ∃ b, s = b ++ '"' :: (List.replicate n '#' ++ r) ∧ ∀ x,
      splitRaw? n (b ++ '"' :: (List.replicate n '#' ++ x)) =
        some (b ++ '"' :: List.replicate n '#', x) := by
  fun_induction rawBody? d n s generalizing v with
  | case1 => cases h
  | case2 s ih =>
    simp only [Option.map_eq_some_iff, Prod.exists, Prod.mk.injEq] at h
    obtain ⟨v, r, hv, -, rfl⟩ := h
    obtain ⟨b, rfl, hb⟩ := ih hv
    exact ⟨'\r' :: '\n' :: b, rfl,
      splitRaw?_after (r := r) (by simp) (splitRaw?_after (r := r) (by simp) hb)⟩
  | case3 => cases h
  | case4 c s _ _ hc =>
    obtain ⟨-, rfl⟩ := Prod.mk.inj (Option.some.inj h)
    simp only [Bool.and_eq_true, beq_iff_eq] at hc
    obtain ⟨rfl, hhashes⟩ := hc
    refine ⟨[], congrArg ('"' :: ·) (eq_of_startsHashes hhashes), fun x => ?_⟩
    rw [List.nil_append, splitRaw?, startsHashes_replicate,
      List.take_left' (List.length_replicate ..), List.drop_left' (List.length_replicate ..)]
    rfl
  | case5 c s _ _ hc _ ih =>
    simp only [Option.map_eq_some_iff, Prod.exists, Prod.mk.injEq] at h
    obtain ⟨v, r, hv, -, rfl⟩ := h
    obtain ⟨b, rfl, hb⟩ := ih hv
    exact ⟨c :: b, rfl, splitRaw?_after hc hb⟩
  | case6 => cases h

/-- The inside of a raw literal in its quotes, with the `#` around them. -/
def guarded (n : Nat) (b : List Char) : List Char :=
  List.replicate n '#' ++ '"' :: (b ++ '"' :: List.replicate n '#')

/-- A raw literal ends where the reader of text in braces sees its end. -/
theorem exists_of_raw? {d : Dialect} {s v r : List Char} (h : raw? d s = some (v, r)) :
    ∃ n b, s = guarded n b ++ r ∧ (raw n).Ends (guarded n b) := by
  have hrun : s.takeWhile (· == '#') =
      List.replicate (s.takeWhile (· == '#')).length '#' := by
    refine List.eq_replicate_iff.2 ⟨rfl, fun c hc => ?_⟩
    exact eq_of_beq (List.all_eq_true.1 List.all_takeWhile c hc)
  rw [raw?] at h
  generalize hn : (s.takeWhile (· == '#')).length = n at h hrun
  split at h
  · next r' hr' =>
    split at h
    · obtain ⟨b, rfl, hb⟩ := exists_of_rawBody? h
      refine ⟨n, b, ?_, fun x => ?_⟩
      · rw [guarded, List.append_assoc, List.cons_append, List.append_assoc, List.cons_append, ← hr',
          ← hrun, List.takeWhile_append_dropWhile]
      · have hfront : (List.replicate n '#' ++ ['"']).length = n + 1 := by simp
        have htext : guarded n b ++ x =
            (List.replicate n '#' ++ ['"']) ++ (b ++ '"' :: (List.replicate n '#' ++ x)) := by
          simp [guarded]
        rw [split?, htext, List.take_left' hfront, List.drop_left' hfront, hb x]
        simp [guarded]
    · cases h
  · cases h

/-- A string literal is quoted or raw after the letter of its dialect. -/
theorem exists_of_string? {s v r : List Char} (h : string? s = some (v, r)) :
    ∃ p ∈ [[], ['b'], ['c']],
      (∃ t, s = p ++ '"' :: t ++ r ∧ (quoted '"').Ends t) ∨
      ∃ n b, s = p ++ 'r' :: guarded n b ++ r ∧ (raw n).Ends (guarded n b) := by
  have hquoted {d : Dialect} {s : List Char} (p : List Char) (h : quoted? d s = some (v, r)) :
      (∃ t, p ++ s = p ++ '"' :: t ++ r ∧ (quoted '"').Ends t) ∨
      ∃ n b, p ++ s = p ++ 'r' :: guarded n b ++ r ∧ (raw n).Ends (guarded n b) := by
    rw [quoted?.eq_def] at h
    split at h
    · obtain ⟨t, rfl, ht⟩ := exists_of_body? h
      exact .inl ⟨t, by simp, ht⟩
    · obtain ⟨n, b, rfl, hb⟩ := exists_of_raw? h
      exact .inr ⟨n, b, by simp, hb⟩
    · cases h
  have hdialect : ∃ p ∈ [[], ['b'], ['c']], p ++ (dialect s).2 = s := by
    rw [dialect.eq_def]
    split
    · exact ⟨['b'], by simp, rfl⟩
    · exact ⟨['c'], by simp, rfl⟩
    · exact ⟨[], by simp, rfl⟩
  obtain ⟨p, hp, hs⟩ := hdialect
  have hcases := hquoted (d := (dialect s).1) (s := (dialect s).2) p h
  rw [hs] at hcases
  exact ⟨p, hp, hcases⟩

end StringLiteral

end TextTemplate
