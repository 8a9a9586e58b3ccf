import TextTemplate.Proofs.Template.Closed
import TextTemplate.Proofs.Template.Literals

/-!
# Text in braces, split from the left

What the reader of text in braces accepts can be said without it: the text is split into literals
and single characters, each of which begins where the one before it ends, and the splitting is over
at the brace that closes the first one.

- `Braced.Inside`, `Braced.Shortest`: what stands between the ends of a literal.
- `Braced.BeginsCharacter`, `Braced.AllowsRaw`, `Braced.Begins`: a literal begins at a character, as
  seen from the text on both sides of it.
- `Braced.Item`: a literal or a single character.
- `Braced.Splits`: items in a row, from one depth of braces up to the end of all braces.
- `splitQuoted?_eq_some_iff`, `splitRaw?_eq_some_iff`, `at?_eq_some_iff`: the parts of the reader.
- `item_literal_iff`, `item_single_iff`: what the reader takes at a time are items.
- `splits_of_readFrom`, `readFrom_of_splits`: reading and splitting from any depth on.
- `read_eq_ok_iff`: the main statement.
-/

namespace TextTemplate

namespace Braced

/-! ## Literals -/

/-- What stands between two quotes: every backslash takes the next character along, and the closing
quote is not among the others. -/
inductive Inside (close : Char) : List Char → Prop
  | nil : Inside close []
  | escape (c : Char) {w : List Char} (h : Inside close w) : Inside close ('\\' :: c :: w)
  | plain {c : Char} {w : List Char} (hc : c ≠ '\\' ∧ c ≠ close) (h : Inside close w) :
    Inside close (c :: w)

/-- The end of a raw literal: a quote and some signs after it. -/
def rawEnd (n : Nat) : List Char := '"' :: List.replicate n '#'

/-- What stands in a raw literal: no front of it is followed by the end of the literal. -/
def Shortest (n : Nat) (w : List Char) : Prop :=
  ∀ u, u ++ rawEnd n <+: w ++ rawEnd n → w.length ≤ u.length

/-- What follows a quote makes it the beginning of a character: an escape, or any character and a
quote. -/
def BeginsCharacter (s : List Char) : Prop :=
  (∃ t, s = '\\' :: t) ∨ ∃ c t, s = c :: '\'' :: t

/-- A text is empty or ends in a character that is no part of a word. -/
def EndsOutsideWord (s : List Char) : Prop := ∀ c, s.getLast? = some c → Text.isWordChar c = false

/-- What stands before an `r` allows it to begin a literal: it goes on with no word, or with the
single letter `b`. -/
def AllowsRaw (before : List Char) : Prop :=
  EndsOutsideWord before ∨ ∃ u, before = u ++ ['b'] ∧ EndsOutsideWord u

/-- A literal begins at a character that stands between two texts. -/
def Begins (before : List Char) (c : Char) (after : List Char) : Prop :=
  c = '"' ∨ (c = '\'' ∧ BeginsCharacter after) ∨
    (c = 'r' ∧ AllowsRaw before ∧ ∃ n t, after = List.replicate n '#' ++ '"' :: t)

/-- What is taken at a time from a text, given what stands before it and what follows it. -/
inductive Item (before : List Char) : (item : List Char) → (after : List Char) → Prop
  | string {w : List Char} (after : List Char) (h : Inside '"' w) :
    Item before ('"' :: (w ++ ['"'])) after
  | character {w after : List Char} (hbegins : BeginsCharacter (w ++ '\'' :: after))
    (h : Inside '\'' w) : Item before ('\'' :: (w ++ ['\''])) after
  | raw (n : Nat) {w : List Char} (after : List Char) (hbefore : AllowsRaw before)
    (h : Shortest n w) : Item before ('r' :: (List.replicate n '#' ++ '"' :: (w ++ rawEnd n))) after
  | single {c : Char} {after : List Char} (h : ¬ Begins before c after) : Item before [c] after

/-- The number of open braces after an item. Braces in literals do not count. -/
def depthAfter (depth : Nat) : List Char → Nat
  | ['{'] => depth + 1
  | ['}'] => depth - 1
  | _ => depth

/-- A text is split into items, each of which begins where the one before it ends, until no brace is
open any more. -/
inductive Splits : (before : List Char) → (depth : Nat) → (text : List Char) →
    (after : List Char) → Prop
  | done (before after : List Char) : Splits before 0 [] after
  | item {before item text after : List Char} {depth : Nat}
    (hitem : Item before item (text ++ after))
    (h : Splits (before ++ item) (depthAfter (depth + 1) item) text after) :
    Splits before (depth + 1) (item ++ text) after

end Braced

/-! ## Parts of the reader -/

namespace Opening

open Braced

/-- A literal in quotes is read up to its closing quote. -/
theorem splitQuoted?_eq_some_iff {close : Char} (hclose : close ≠ '\\') {s t r : List Char} :
    splitQuoted? close s = some (t, r) ↔ ∃ w, Inside close w ∧ t = w ++ [close] ∧ s = t ++ r := by
  constructor
  · intro h
    have hs := append_of_splitQuoted? h
    suffices hw : ∃ w, Inside close w ∧ t = w ++ [close] by
      obtain ⟨w, hw, ht⟩ := hw
      exact ⟨w, hw, ht, hs.symm⟩
    clear hs
    fun_induction splitQuoted? close s generalizing t with
    | case1 => cases h
    | case2 => cases h
    | case3 c s ih =>
      simp only [Option.map_eq_some_iff, Prod.exists, Prod.mk.injEq] at h
      obtain ⟨u, v, hu, rfl, rfl⟩ := h
      obtain ⟨w, hw, rfl⟩ := ih hu
      exact ⟨'\\' :: c :: w, .escape c hw, rfl⟩
    | case4 s hlast hescape =>
      cases h
      exact ⟨[], .nil, rfl⟩
    | case5 c s hlast hescape hc ih =>
      simp only [Option.map_eq_some_iff, Prod.exists, Prod.mk.injEq] at h
      obtain ⟨u, v, hu, rfl, rfl⟩ := h
      obtain ⟨w, hw, rfl⟩ := ih hu
      have hback : c ≠ '\\' := by
        rintro rfl
        cases s with
        | nil => exact hlast rfl rfl
        | cons d s => exact hescape d s rfl rfl
      exact ⟨c :: w, .plain ⟨hback, hc⟩ hw, rfl⟩
  · rintro ⟨w, hw, rfl, rfl⟩
    have hends : (quoted close).Ends (w ++ [close]) := by
      induction hw with
      | nil => exact ends_close hclose
      | escape c _ ih => exact ih.escape c
      | plain hc _ ih => exact ih.after (w := [_]) (List.forall_mem_singleton.2 hc)
    exact hends r

/-- A raw literal goes on with a character that is not the beginning of its end. -/
theorem shortest_cons {n : Nat} {c : Char} {w : List Char} :
    Shortest n (c :: w) ↔ ¬ rawEnd n <+: c :: w ++ rawEnd n ∧ Shortest n w := by
  constructor
  · intro h
    refine ⟨fun hend => ?_, fun u hu => ?_⟩
    · have := h [] hend
      simp at this
    · have := h (c :: u) (List.cons_prefix_cons.2 ⟨rfl, hu⟩)
      simpa using this
  · rintro ⟨hend, h⟩ u hu
    cases u with
    | nil => exact absurd hu hend
    | cons d u =>
      obtain ⟨-, hu⟩ := List.cons_prefix_cons.1 hu
      simpa using h u hu

/-- A quote with the signs after it is the end of a raw literal. -/
theorem rawEnd_prefix_iff {n : Nat} {c : Char} {s : List Char} :
    rawEnd n <+: c :: s ↔ (c = '"' && StringLiteral.startsHashes n s) = true := by
  rw [rawEnd, List.cons_prefix_cons, Bool.and_eq_true, decide_eq_true_eq, eq_comm]
  refine and_congr_right fun _ => ⟨?_, fun h => ?_⟩
  · rintro ⟨t, rfl⟩
    exact startsHashes_replicate n t
  · exact ⟨s.drop n, (eq_of_startsHashes h).symm⟩

/-- A raw literal is read up to its first possible end. -/
theorem splitRaw?_eq_some_iff {n : Nat} {s t r : List Char} :
    splitRaw? n s = some (t, r) ↔ ∃ w, Shortest n w ∧ t = w ++ rawEnd n ∧ s = t ++ r := by
  constructor
  · intro h
    have hs := append_of_splitRaw? h
    suffices hw : ∃ w, Shortest n w ∧ t = w ++ rawEnd n by
      obtain ⟨w, hw, ht⟩ := hw
      exact ⟨w, hw, ht, hs.symm⟩
    fun_induction splitRaw? n s generalizing t with
    | case1 => cases h
    | case2 c s hend =>
      cases h
      refine ⟨[], fun u _ => Nat.zero_le _, ?_⟩
      obtain ⟨rfl, hsigns⟩ : c = '"' ∧ StringLiteral.startsHashes n s = true := by
        simpa using hend
      have htake : s.take n = List.replicate n '#' := by
        rw [eq_of_startsHashes hsigns, List.take_left' (List.length_replicate ..)]
      rw [htake]
      rfl
    | case3 c s hend ih =>
      simp only [Option.map_eq_some_iff, Prod.exists, Prod.mk.injEq] at h
      obtain ⟨u, v, hu, rfl, rfl⟩ := h
      obtain ⟨w, hw, rfl⟩ := ih hu (append_of_splitRaw? hu)
      refine ⟨c :: w, shortest_cons.2 ⟨fun hearly => hend ?_, hw⟩, rfl⟩
      rw [← rawEnd_prefix_iff]
      exact hearly.trans ⟨v, hs⟩
  · rintro ⟨w, hw, rfl, rfl⟩
    induction w with
    | nil =>
      have hsigns := startsHashes_replicate n r
      show splitRaw? n ('"' :: (List.replicate n '#' ++ r)) = _
      rw [splitRaw?, hsigns, List.take_left' (List.length_replicate ..),
        List.drop_left' (List.length_replicate ..)]
      rfl
    | cons c w ih =>
      obtain ⟨hearly, hw⟩ := shortest_cons.1 hw
      have hend : ¬ (c = '"' && StringLiteral.startsHashes n (w ++ rawEnd n ++ r)) = true := by
        rw [← rawEnd_prefix_iff]
        intro hend
        -- The signs that would end it here stand before the end, since they fit into what is there.
        refine hearly (List.prefix_of_prefix_length_le hend ⟨r, rfl⟩ ?_)
        rw [List.length_append]
        omega
      show splitRaw? n (c :: (w ++ rawEnd n ++ r)) = _
      rw [splitRaw?, if_neg hend, ih hw]
      rfl

/-- The signs between an `r` and a quote are counted. -/
theorem hashes?_eq_some_iff {s : List Char} {n : Nat} :
    hashes? s = some n ↔ ∃ t, s = List.replicate n '#' ++ '"' :: t := by
  constructor
  · intro h
    rw [hashes?] at h
    split at h
    · next hquote =>
      obtain rfl := Option.some.inj h
      obtain ⟨t, ht⟩ := List.head?_eq_some_iff.1 hquote
      have hrun : s.takeWhile (· == '#') = List.replicate (s.takeWhile (· == '#')).length '#' := by
        refine List.eq_replicate_of_mem fun c hc => ?_
        simpa using List.all_eq_true.1 List.all_takeWhile c hc
      have hs := List.prefix_iff_eq_append.1 (List.takeWhile_prefix (· == '#') (l := s))
      rw [ht] at hs
      refine ⟨t, ?_⟩
      rw [← hrun, hs]
    · cases h
  · rintro ⟨t, rfl⟩
    exact hashes?_replicate n t

theorem startsCharacter_iff (s : List Char) : startsCharacter s = true ↔ BeginsCharacter s := by
  unfold startsCharacter BeginsCharacter
  split
  · next t => simp
  · next c t _ => exact ⟨fun _ => .inr ⟨c, t, rfl⟩, fun _ => rfl⟩
  · next hescape hquote =>
    refine ⟨nofun, ?_⟩
    rintro (⟨t, rfl⟩ | ⟨c, t, rfl⟩)
    · exact absurd rfl (hescape t)
    · exact absurd rfl (hquote c t)

theorem endsOutsideWord_append_singleton (u : List Char) (c : Char) :
    EndsOutsideWord (u ++ [c]) ↔ Text.isWordChar c = false := by
  simp [EndsOutsideWord]

/-- The reader looks at the text before an `r` from its end. -/
theorem startsToken_iff (before : List Char) :
    startsToken before.reverse = true ↔ AllowsRaw before := by
  have hb : Text.isWordChar 'b' = true := by decide +kernel
  unfold AllowsRaw
  rcases List.eq_nil_or_concat before with rfl | ⟨u, c, rfl⟩
  · simp [startsToken, EndsOutsideWord]
  simp only [List.concat_eq_append, endsOutsideWord_append_singleton, List.append_singleton_inj]
  by_cases hc : c = 'b'
  · subst hc
    rcases List.eq_nil_or_concat u with rfl | ⟨v, d, rfl⟩
    · simp [startsToken, EndsOutsideWord]
    · simp [startsToken, hb, endsOutsideWord_append_singleton]
  · simp [startsToken, hc]

/-- The three kinds of literals, as the reader sees them begin. -/
theorem at?_eq_some_iff {before s : List Char} {c : Char} {o : Opening} :
    at? before.reverse c s = some o ↔ (c = '"' ∧ o = quoted '"') ∨
      (c = '\'' ∧ BeginsCharacter s ∧ o = quoted '\'') ∨
      (c = 'r' ∧ AllowsRaw before ∧ ∃ n u, s = List.replicate n '#' ++ '"' :: u ∧ o = raw n) := by
  have hraw : (hashes? s).map raw = some o ↔
      ∃ n u, s = List.replicate n '#' ++ '"' :: u ∧ o = raw n := by
    simp only [Option.map_eq_some_iff, hashes?_eq_some_iff]
    constructor
    · rintro ⟨n, ⟨u, hs⟩, rfl⟩
      exact ⟨n, u, hs, rfl⟩
    · rintro ⟨n, u, hs, rfl⟩
      exact ⟨n, ⟨u, hs⟩, rfl⟩
  rw [at?, ← startsCharacter_iff, ← startsToken_iff, ← hraw]
  by_cases hquote : c = '"'
  · simpa [hquote] using eq_comm
  by_cases hsingle : c = '\''
  · by_cases hs : startsCharacter s = true
    · simpa [hsingle, hs] using eq_comm
    · simp [hsingle, hs]
  by_cases hr : c = 'r'
  · by_cases hs : startsToken before.reverse = true <;> simp [hr, hs]
  · simp [hquote, hsingle, hr]

/-- No literal begins where none of the three kinds does. -/
theorem at?_eq_none_iff {before s : List Char} {c : Char} :
    at? before.reverse c s = none ↔ ¬ Begins before c s := by
  rw [Option.eq_none_iff_forall_ne_some, Begins]
  simp only [ne_eq, at?_eq_some_iff]
  constructor
  · rintro h (hc | ⟨hc, hs⟩ | ⟨hc, hbefore, n, u, hs⟩)
    · exact h _ (.inl ⟨hc, rfl⟩)
    · exact h _ (.inr (.inl ⟨hc, hs, rfl⟩))
    · exact h _ (.inr (.inr ⟨hc, hbefore, n, u, hs, rfl⟩))
  · rintro h o (⟨hc, -⟩ | ⟨hc, hs, -⟩ | ⟨hc, hbefore, n, u, hs, -⟩)
    · exact h (.inl hc)
    · exact h (.inr (.inl ⟨hc, hs⟩))
    · exact h (.inr (.inr ⟨hc, hbefore, n, u, hs⟩))

/-- The signs and the quote at the beginning of a raw literal are part of it. -/
theorem split?_raw (n : Nat) (s : List Char) :
    (raw n).split? (List.replicate n '#' ++ '"' :: s) =
      (splitRaw? n s).map fun (t, r) => (List.replicate n '#' ++ '"' :: t, r) := by
  have hlength : (List.replicate n '#' ++ ['"']).length = n + 1 := by simp
  have hs : List.replicate n '#' ++ '"' :: s = (List.replicate n '#' ++ ['"']) ++ s := by simp
  rw [split?, hs, List.drop_left' hlength, List.take_left' hlength]
  simp

end Opening

namespace Braced

open Opening

variable {before t after : List Char} {c : Char}

/-- What is not the beginning of a literal is an item alone. -/
theorem item_single_iff : Item before [c] after ↔ at? before.reverse c after = none := by
  rw [at?_eq_none_iff]
  refine ⟨fun h => ?_, .single⟩
  generalize hitem : [c] = item at h
  cases h with
  | string => simp at hitem
  | character => simp at hitem
  | raw => simp at hitem
  | single h =>
    cases hitem
    exact h

/-- A literal is an item whole. -/
theorem item_literal_iff (ht : t ≠ []) : Item before (c :: t) after ↔
    ∃ o, at? before.reverse c (t ++ after) = some o ∧ o.split? (t ++ after) = some (t, after) := by
  constructor
  · intro h
    generalize hitem : c :: t = item at h
    cases h with
    | string after h =>
      obtain ⟨rfl, rfl⟩ := List.cons.inj hitem
      exact ⟨_, at?_eq_some_iff.2 (.inl ⟨rfl, rfl⟩),
        (splitQuoted?_eq_some_iff (by decide)).2 ⟨_, h, rfl, rfl⟩⟩
    | @character w _ hbegins h =>
      obtain ⟨rfl, rfl⟩ := List.cons.inj hitem
      have hbegins : BeginsCharacter (w ++ ['\''] ++ after) := by simpa using hbegins
      exact ⟨_, at?_eq_some_iff.2 (.inr (.inl ⟨rfl, hbegins, rfl⟩)),
        (splitQuoted?_eq_some_iff (by decide)).2 ⟨_, h, rfl, rfl⟩⟩
    | @raw n w after hbefore h =>
      obtain ⟨rfl, rfl⟩ := List.cons.inj hitem
      have hs := splitRaw?_eq_some_iff.2 ⟨w, h, rfl, (rfl : _ = w ++ rawEnd n ++ after)⟩
      rw [List.append_assoc, List.cons_append]
      exact ⟨_, at?_eq_some_iff.2 (.inr (.inr ⟨rfl, hbefore, n, _, rfl, rfl⟩)),
        by rw [split?_raw, hs]; rfl⟩
    | single h => exact absurd (List.cons.inj hitem).2 ht
  · rintro ⟨o, ho, hsplit⟩
    rcases at?_eq_some_iff.1 ho with ⟨rfl, rfl⟩ | ⟨rfl, hbegins, rfl⟩ |
      ⟨rfl, hbefore, n, u, hs, rfl⟩
    · obtain ⟨w, hw, rfl, -⟩ := (splitQuoted?_eq_some_iff (by decide)).1 hsplit
      exact .string after hw
    · obtain ⟨w, hw, rfl, -⟩ := (splitQuoted?_eq_some_iff (by decide)).1 hsplit
      exact .character (by simpa using hbegins) hw
    · rw [hs, split?_raw] at hsplit
      simp only [Option.map_eq_some_iff, Prod.exists, Prod.mk.injEq] at hsplit
      obtain ⟨v, _, hv, rfl, rfl⟩ := hsplit
      obtain ⟨w, hw, rfl, -⟩ := splitRaw?_eq_some_iff.1 hv
      exact .raw n _ hbefore hw

/-- A literal is longer than a character. -/
theorem ne_nil_of_split? {o : Opening} {s : List Char} (h : o.split? s = some (t, after)) :
    t ≠ [] := by
  cases o with
  | quoted close =>
    obtain ⟨w, rfl⟩ := exists_of_splitQuoted? h
    simp
  | raw n =>
    simp only [split?, Option.map_eq_some_iff, Prod.exists, Prod.mk.injEq] at h
    obtain ⟨v, _, hv, rfl, rfl⟩ := h
    obtain ⟨w, -, rfl, -⟩ := splitRaw?_eq_some_iff.1 hv
    simp [rawEnd]

/-! ## The reader -/

/-- Braces in a literal do not count. -/
theorem depthAfter_literal (ht : t ≠ []) (depth : Nat) : depthAfter depth (c :: t) = depth := by
  unfold depthAfter
  split
  · next h => exact absurd (List.cons.inj h).2 ht
  · next h => exact absurd (List.cons.inj h).2 ht
  · rfl

theorem depthAfter_single (hopen : c ≠ '{') (hclose : c ≠ '}') (depth : Nat) :
    depthAfter depth [c] = depth := by
  unfold depthAfter
  split
  · next h => exact absurd (List.cons.inj h).1 hopen
  · next h => exact absurd (List.cons.inj h).1 hclose
  · rfl

/-- What is read up to the last brace is split up to behind that brace. -/
theorem splits_of_readFrom {depth : Nat} {s out : List Char}
    (h : readFrom depth before.reverse s = .ok (out, after)) :
    Splits before (depth + 1) (out ++ ['}']) after := by
  -- The induction follows the reader, which keeps the text before it in reverse.
  generalize hu : before.reverse = u at h
  obtain rfl : before = u.reverse := by rw [← hu, List.reverse_reverse]
  clear hu
  fun_induction readFrom depth u s generalizing out with
  | case1 => cases h
  | case2 depth u c s o ho t r hs ih =>
    obtain ⟨v, hv, rfl⟩ := prepend_eq_ok_iff.1 h
    have hrest := ih hv
    have hne := ne_nil_of_split? hs
    obtain rfl := append_of_split? hs
    obtain rfl := append_of_readFrom hv
    have hitem : Item u.reverse (c :: t) (v ++ ['}'] ++ after) := by
      rw [item_literal_iff hne]
      exact ⟨o, by simpa using ho, by simpa using hs⟩
    rw [List.append_assoc]
    refine .item hitem ?_
    rw [depthAfter_literal hne]
    simpa using hrest
  | case3 => cases h
  | case4 u s ho =>
    -- This is the brace that closes the first one: after it the splitting is done.
    obtain ⟨rfl, rfl⟩ : [] = out ∧ s = after := by simpa using h
    have hitem : Item u.reverse ['}'] ([] ++ s) := item_single_iff.2 (by simpa using ho)
    exact @Splits.item _ _ [] _ _ hitem (.done _ _)
  | case5 u s depth ho ih =>
    obtain ⟨v, hv, rfl⟩ := prepend_eq_ok_iff.1 h
    have hrest := ih hv
    obtain rfl := append_of_readFrom hv
    have hitem : Item u.reverse ['}'] (v ++ ['}'] ++ after) := item_single_iff.2 (by simpa using ho)
    rw [List.append_assoc]
    refine .item hitem ?_
    simpa [depthAfter] using hrest
  | case6 depth u c s ho hc ih =>
    obtain ⟨v, hv, rfl⟩ := prepend_eq_ok_iff.1 h
    have hrest := ih hv
    obtain rfl := append_of_readFrom hv
    have hitem : Item u.reverse [c] (v ++ ['}'] ++ after) := item_single_iff.2 (by simpa using ho)
    rw [List.append_assoc]
    refine .item hitem ?_
    by_cases hopen : c = '{'
    · subst hopen
      simpa [depthAfter] using hrest
    · rw [depthAfter_single hopen hc]
      simpa [hopen] using hrest

/-- What is split up to the end of all braces is read up to the last of them. -/
theorem readFrom_of_splits {depth : Nat} {text : List Char}
    (h : Splits before (depth + 1) text after) :
    ∃ out, text = out ++ ['}'] ∧
      readFrom depth before.reverse (text ++ after) = .ok (out, after) := by
  generalize hd : depth + 1 = d at h
  induction h generalizing depth with
  | done => exact absurd hd (by simp)
  | @item before item text after d hitem hsplits ih =>
    obtain rfl : depth = d := Nat.succ.inj hd
    -- An item of more than one character is a literal, and all others are single.
    match item with
    | [] => cases hitem
    | c :: d :: t =>
      have hne : d :: t ≠ [] := List.cons_ne_nil _ _
      obtain ⟨o, ho, hs⟩ := (item_literal_iff hne).1 hitem
      rw [depthAfter_literal hne] at ih
      obtain ⟨out, rfl, hread⟩ := ih rfl
      refine ⟨c :: d :: t ++ out, by simp, ?_⟩
      have hreverse : (before ++ c :: d :: t).reverse =
          (d :: t).reverse ++ c :: before.reverse := by
        simp
      rw [hreverse] at hread
      rw [List.append_assoc, List.cons_append, readFrom_literal ho hs, hread]
      rfl
    | [c] =>
      have ho := item_single_iff.1 hitem
      have hreverse : (before ++ [c]).reverse = c :: before.reverse := by simp
      rw [hreverse] at ih
      by_cases hclose : c = '}'
      · subst hclose
        cases depth with
        | zero =>
          cases hsplits
          exact ⟨[], rfl, readFrom_close ho⟩
        | succ depth =>
          obtain ⟨out, rfl, hread⟩ := ih rfl
          refine ⟨'}' :: out, rfl, ?_⟩
          show readFrom _ _ ('}' :: (out ++ ['}'] ++ after)) = _
          rw [readFrom_close_succ ho, hread]
          rfl
      · have hdepth : depthAfter (depth + 1) [c] = (if c = '{' then depth + 1 else depth) + 1 := by
          by_cases hopen : c = '{'
          · subst hopen
            rfl
          · rw [depthAfter_single hopen hclose, if_neg hopen]
        obtain ⟨out, rfl, hread⟩ := ih hdepth.symm
        refine ⟨c :: out, rfl, ?_⟩
        show readFrom _ _ (c :: (out ++ ['}'] ++ after)) = _
        rw [readFrom_char ho hclose, hread]
        rfl

/-- **Text in braces is read as it is split**: the reader succeeds exactly if the splitting comes to
the end of all braces. What it gives is the text up to the last brace, and behind that brace it
stops; nothing is lost, added or changed. -/
theorem read_eq_ok_iff (s out after : List Char) :
    read s = .ok (out, after) ↔ s = out ++ '}' :: after ∧ Splits [] 1 (out ++ ['}']) after := by
  constructor
  · intro h
    exact ⟨(append_of_read h).symm, @splits_of_readFrom [] _ _ _ _ h⟩
  · rintro ⟨rfl, h⟩
    obtain ⟨_, hout, hread⟩ := readFrom_of_splits h
    obtain ⟨rfl, -⟩ := List.append_singleton_inj.1 hout
    rw [List.append_assoc] at hread
    exact hread

end Braced

end TextTemplate
