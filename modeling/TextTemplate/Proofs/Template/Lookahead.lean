import TextTemplate.Proofs.Template.Closed
import TextTemplate.Proofs.Template.Literals
import TextTemplate.Proofs.Template.RoundTrip

/-!
# How far the reader looks ahead

To find the first cut of a template the reader looks at the characters of the cut, and sometimes at
one or two more. If the template goes on after its end, the cut stays the same, with few exceptions.

- `splitQuoted?_append`, `splitRaw?_append`, `split?_append`: a literal that ends stays as it is.
- `at?_append`: a literal begins at the same characters. Only a quote in front of the last brace may
  become one, if another quote comes after the brace.
- `readFrom_append`: a text in braces that ends stays as it is.
- `Cut.Joins`: the exceptions, in which a cut would be another one.
- `Cut.next_append`: otherwise the first cut of a template stays as it is.
- `Cut.isOpenEnd_of_next`: a text that begins with no cut could be mended by more text.
-/

namespace TextTemplate

/-! ## Literals -/

namespace Opening

theorem splitQuoted?_append {close : Char} {s u r : List Char}
    (h : splitQuoted? close s = some (u, r)) (t : List Char) :
    splitQuoted? close (s ++ t) = some (u, r ++ t) := by
  have hback {c : Char} {s : List Char} (hlast : c = '\\' → s = [] → False)
      (hescape : ∀ d v, c = '\\' → s = d :: v → False) : c ≠ '\\' := by
    rintro rfl
    cases s with
    | nil => exact hlast rfl rfl
    | cons d v => exact hescape d v rfl rfl
  fun_induction splitQuoted? close s generalizing u with
  | case1 => cases h
  | case2 => cases h
  | case3 d s ih =>
    simp only [Option.map_eq_some_iff, Prod.exists, Prod.mk.injEq] at h
    obtain ⟨v, _, hv, rfl, rfl⟩ := h
    rw [List.cons_append, List.cons_append, splitQuoted?, ih hv]
    rfl
  | case4 s hlast hescape =>
    cases h
    rw [List.cons_append, splitQuoted?_cons (hback hlast hescape), if_pos rfl]
  | case5 c s hlast hescape hc ih =>
    simp only [Option.map_eq_some_iff, Prod.exists, Prod.mk.injEq] at h
    obtain ⟨v, _, hv, rfl, rfl⟩ := h
    rw [List.cons_append, splitQuoted?_cons (hback hlast hescape), if_neg hc, ih hv]
    rfl

/-- The closing quote of a raw literal and all signs after it have been read. -/
theorem length_of_splitRaw? {n : Nat} {s u r : List Char} (h : splitRaw? n s = some (u, r)) :
    n < s.length := by
  fun_induction splitRaw? n s generalizing u with
  | case1 => cases h
  | case2 c s hc =>
    have hsigns := congrArg List.length (eq_of_startsHashes (Bool.and_eq_true_iff.1 hc).2)
    simp only [List.length_append, List.length_replicate, List.length_drop] at hsigns
    rw [List.length_cons]
    omega
  | case3 c s hc ih =>
    simp only [Option.map_eq_some_iff, Prod.exists, Prod.mk.injEq] at h
    obtain ⟨v, _, hv, rfl, rfl⟩ := h
    exact Nat.lt_succ_of_lt (ih hv)

theorem splitRaw?_append {n : Nat} {s u r : List Char} (h : splitRaw? n s = some (u, r))
    (t : List Char) : splitRaw? n (s ++ t) = some (u, r ++ t) := by
  fun_induction splitRaw? n s generalizing u with
  | case1 => cases h
  | case2 c s hc =>
    have hs : splitRaw? n (c :: s) = some (u, r) := by rw [splitRaw?, if_pos hc, h]
    have hlength : n ≤ s.length := Nat.le_of_lt_succ (length_of_splitRaw? hs)
    cases h
    rw [List.cons_append, splitRaw?, startsHashes_append hlength, if_pos hc,
      List.take_append_of_le_length hlength, List.drop_append_of_le_length hlength]
  | case3 c s hc ih =>
    simp only [Option.map_eq_some_iff, Prod.exists, Prod.mk.injEq] at h
    obtain ⟨v, _, hv, rfl, rfl⟩ := h
    -- The literal ends further on, so that there are enough characters to count the signs here.
    have hlength : n ≤ s.length := Nat.le_of_lt (length_of_splitRaw? hv)
    rw [List.cons_append, splitRaw?, startsHashes_append hlength, if_neg hc, ih hv]
    rfl

/-- A literal that ends stays as it is. -/
theorem split?_append {o : Opening} {s u r : List Char} (h : o.split? s = some (u, r))
    (t : List Char) : o.split? (s ++ t) = some (u, r ++ t) := by
  cases o with
  | quoted close => exact splitQuoted?_append h t
  | raw n =>
    simp only [split?, Option.map_eq_some_iff, Prod.exists, Prod.mk.injEq] at h
    obtain ⟨v, _, hv, rfl, rfl⟩ := h
    have hlength : n + 1 ≤ s.length := by
      have := length_of_splitRaw? hv
      rw [List.length_drop] at this
      omega
    rw [split?, List.take_append_of_le_length hlength, List.drop_append_of_le_length hlength,
      splitRaw?_append hv]
    rfl

/-- The `#` after an `r` are counted up to a brace. -/
theorem hashes?_append {s : List Char} (h : '}' ∈ s) (t : List Char) :
    hashes? (s ++ t) = hashes? s := by
  induction s with
  | nil => exact absurd h List.not_mem_nil
  | cons c s ih =>
    by_cases hc : c = '#'
    · subst hc
      rw [List.cons_append, hashes?_hash_cons, hashes?_hash_cons,
        ih ((List.mem_cons.1 h).resolve_left (by decide))]
    · simp [hashes?, hc]

/-- Whether a literal begins with a quote is seen from the two characters after it. Only the second
of them may come after the last brace. -/
theorem startsCharacter_append {s t : List Char} (h : '}' ∈ s)
    (ht : s = ['}'] → t.head? ≠ some '\'') : startsCharacter (s ++ t) = startsCharacter s := by
  match s with
  | [] => exact absurd h List.not_mem_nil
  | [c] =>
    obtain rfl := List.mem_singleton.1 h
    have ht := ht rfl
    cases t with
    | nil => rfl
    | cons d t =>
      have hd : d ≠ '\'' := fun hd => ht (congrArg some hd)
      simp [startsCharacter, hd]
  | c :: d :: s =>
    by_cases hc : c = '\\'
    · subst hc
      rfl
    · by_cases hd : d = '\'' <;> simp [startsCharacter, hc, hd]

/-- Literals begin at the same characters if the template goes on after the last brace. -/
theorem at?_append (before : List Char) {c : Char} {s u r t : List Char}
    (h : u ++ '}' :: r = c :: s)
    (ht : r = [] → u.getLast? = some '\'' → t.head? ≠ some '\'') :
    at? before c (s ++ t) = at? before c s := by
  cases u with
  | nil =>
    obtain ⟨rfl, -⟩ := List.cons.inj h
    rfl
  | cons d u =>
    rw [List.cons_append] at h
    obtain ⟨rfl, rfl⟩ := List.cons.inj h
    have hbrace : '}' ∈ u ++ '}' :: r := List.mem_append_right _ List.mem_cons_self
    -- A quote has the second character after the brace only if the brace comes right after it and
    -- is the last character of the text.
    have hquote (hd : d = '\'') (hs : u ++ '}' :: r = ['}']) : t.head? ≠ some '\'' := by
      have hlength := congrArg List.length hs
      simp only [List.length_append, List.length_cons, List.length_nil] at hlength
      have hu : u = [] := List.eq_nil_of_length_eq_zero (by omega)
      have hr : r = [] := List.eq_nil_of_length_eq_zero (by omega)
      exact ht hr (by rw [hu, hd]; rfl)
    unfold at?
    rw [hashes?_append hbrace]
    by_cases hd : d = '\''
    · rw [startsCharacter_append hbrace (hquote hd)]
    · rw [if_neg hd, if_neg hd]

end Opening

/-! ## Texts in braces -/

namespace Braced

/-- A text in braces that ends stays as it is if the template goes on. -/
theorem readFrom_append {depth : Nat} {before s u r t : List Char}
    (h : readFrom depth before s = .ok (u, r))
    (ht : r = [] → u.getLast? = some '\'' → t.head? ≠ some '\'') :
    readFrom depth before (s ++ t) = .ok (u, r ++ t) := by
  have hsource := append_of_readFrom h
  -- What is left to read ends with the same character, if it has any.
  have hlast (w v : List Char) (hv : v.getLast? = some '\'') : (w ++ v).getLast? = some '\'' := by
    rw [List.getLast?_append, hv]
    rfl
  fun_induction readFrom depth before s generalizing u with
  | case1 => cases h
  | case2 depth before c s o ho v w hs ih =>
    obtain ⟨x, hx, rfl⟩ := prepend_eq_ok_iff.1 h
    rw [List.cons_append, readFrom_literal ((Opening.at?_append before hsource ht).trans ho)
      (Opening.split?_append hs t),
      ih hx (fun hr hv => ht hr (hlast _ x hv)) (append_of_readFrom hx)]
    rfl
  | case3 => cases h
  | case4 before s ho =>
    cases h
    rw [List.cons_append, readFrom_close ((Opening.at?_append before hsource ht).trans ho)]
  | case5 before s depth ho ih =>
    obtain ⟨x, hx, rfl⟩ := prepend_eq_ok_iff.1 h
    rw [List.cons_append, readFrom_close_succ ((Opening.at?_append before hsource ht).trans ho),
      ih hx (fun hr hv => ht hr (hlast _ x hv)) (append_of_readFrom hx)]
    rfl
  | case6 depth before c s ho hc ih =>
    obtain ⟨x, hx, rfl⟩ := prepend_eq_ok_iff.1 h
    have hrest := ih hx (fun hr hv => ht hr (hlast _ x hv)) (append_of_readFrom hx)
    rw [dite_eq_ite] at hrest
    rw [List.cons_append, readFrom_char ((Opening.at?_append before hsource ht).trans ho) hc, hrest]
    rfl

end Braced

/-! ## Cuts -/

namespace Cut

/-- A remark that ends stays as it is if the template goes on. -/
theorem splitComment?_mono {s u r : List Char} (h : splitComment? s = some (u, r)) (t : List Char) :
    splitComment? (s ++ t) = some (u, r ++ t) := by
  fun_induction splitComment? s generalizing u with
  | case1 => cases h
  | case2 s =>
    cases h
    rfl
  | case3 c s hend ih =>
    simp only [Option.map_eq_some_iff, Prod.exists, Prod.mk.injEq] at h
    obtain ⟨v, _, hv, rfl, rfl⟩ := h
    rw [List.cons_append, splitComment?, ih hv]
    · rfl
    · intro w hc hw
      cases s with
      | nil => cases hv
      | cons d s =>
        obtain ⟨rfl, -⟩ := List.cons.inj hw
        exact hend s hc rfl

/-- Whether a cut at the end of a template would be another one if the template went on: a sign that
stands for itself may begin a construct, and a quote before the last brace may begin a literal. -/
def Joins : Cut → List Char → Prop
  | text c, t =>
    (c = '@' ∧ (t.head? = some '@' ∨ t.head? = some '{')) ∨
      (c = '{' ∧ ∃ d ∈ braceSigns, t.head? = some d)
  | output u, t | tag u, t => u.getLast? = some '\'' ∧ t.head? = some '\''
  | doubledAt, _ | comment _, _ => False

/-- Unless it is text, a cut that would be another one ends with a quote and a brace. -/
theorem suffix_of_joins {cut : Cut} {t : List Char} (h : cut.Joins t) (htext : ∀ c, cut ≠ text c) :
    ['\'', '}'] <:+ cut.source ∧ t.head? = some '\'' := by
  have hsuffix {u : List Char} (hlast : u.getLast? = some '\'') (front : List Char) :
      ['\'', '}'] <:+ front ++ u ++ ['}'] := by
    obtain ⟨v, rfl⟩ := List.getLast?_eq_some_iff.1 hlast
    exact ⟨front ++ v, by simp⟩
  cases cut with
  | text c => exact absurd rfl (htext c)
  | doubledAt => exact absurd h id
  | output u => exact ⟨hsuffix h.1 ['@', '{'], h.2⟩
  | comment u => exact absurd h id
  | tag u => exact ⟨hsuffix h.1 ['{'], h.2⟩

/-- A cut in braces stays as it is if the template goes on. -/
theorem braced_append {bracing : Bracing} {make : List Char → Cut} {s r t : List Char} {cut : Cut}
    (h : braced bracing make s = .ok (cut, r))
    (ht : ∀ u, cut = make u → r = [] → u.getLast? = some '\'' → t.head? ≠ some '\'') :
    braced bracing make (s ++ t) = .ok (cut, r ++ t) := by
  unfold braced at h
  split at h
  · next u v hread =>
    cases h
    rw [braced, Braced.read, Braced.readFrom_append hread (ht u rfl)]
  · cases h

/-- A character is text if what follows makes no construct of it. -/
theorem next_of_not_joins {c : Char} {s : List Char} (h : ¬ (text c).Joins s) :
    next c s = .ok (text c, s) := by
  by_cases hat : c = '@'
  · subst hat
    have hs : s.head? ≠ some '@' ∧ s.head? ≠ some '{' := by
      constructor
      · exact fun hs => h (.inl ⟨rfl, .inl hs⟩)
      · exact fun hs => h (.inl ⟨rfl, .inr hs⟩)
    rw [next.eq_def, if_pos rfl]
    split
    · exact absurd rfl hs.1
    · exact absurd rfl hs.2
    · rfl
  · by_cases hbrace : c = '{'
    · subst hbrace
      cases s with
      | nil => rfl
      | cons d s => exact next_not_sign (fun hd => h (.inr ⟨rfl, d, hd, rfl⟩)) s
    · rw [next.eq_def, if_neg hat, if_neg hbrace]

theorem next_comment (s : List Char) : next '{' ('>' :: s) =
    match splitComment? s with
    | some (t, r) => .ok (comment t, r)
    | none => .error .unclosedComment := rfl

/-- A character that what follows makes a construct begins a doubled sign, a remark, or braces. -/
theorem exists_of_joins {c : Char} {s : List Char} (h : (text c).Joins s) :
    (∃ r, c = '@' ∧ s = '@' :: r) ∨ (∃ r, c = '{' ∧ s = '>' :: r) ∨
      ∃ bracing make r, (make = output ∨ make = tag) ∧
        ∀ t, next c (s ++ t) = braced bracing make (r ++ t) := by
  rcases h with ⟨rfl, hs | hs⟩ | ⟨rfl, d, hd, hs⟩
  · obtain ⟨r, rfl⟩ := List.head?_eq_some_iff.1 hs
    exact .inl ⟨r, rfl, rfl⟩
  · obtain ⟨r, rfl⟩ := List.head?_eq_some_iff.1 hs
    exact .inr (.inr ⟨.output, output, r, .inl rfl, fun t => rfl⟩)
  · obtain ⟨r, rfl⟩ := List.head?_eq_some_iff.1 hs
    rcases List.mem_cons.1 hd with rfl | hd
    · exact .inr (.inl ⟨r, rfl, rfl⟩)
    · exact .inr (.inr ⟨.tag, tag, d :: r, .inr rfl, fun t => next_sign hd (r ++ t)⟩)

/-- The first cut of a template stays as it is if the template goes on, unless they join. -/
theorem next_append {c : Char} {s rest t : List Char} {cut : Cut} (h : next c s = .ok (cut, rest))
    (ht : rest = [] → ¬ cut.Joins t) : next c (s ++ t) = .ok (cut, rest ++ t) := by
  by_cases hjoins : (text c).Joins s
  · rcases exists_of_joins hjoins with ⟨r, rfl, rfl⟩ | ⟨r, rfl, rfl⟩ | ⟨bracing, make, r, hmake, hr⟩
    · cases h
      rfl
    · rw [next_comment] at h
      rw [List.cons_append, next_comment]
      cases hsplit : splitComment? r with
      | none =>
        rw [hsplit] at h
        cases h
      | some split =>
        rw [hsplit] at h
        cases h
        rw [splitComment?_mono hsplit]
    · have hcut := hr []
      rw [List.append_nil, List.append_nil, h] at hcut
      rw [hr]
      refine braced_append hcut.symm fun u hu hrest hlast hhead => ht hrest ?_
      subst hu
      rcases hmake with rfl | rfl <;> exact ⟨hlast, hhead⟩
  · rw [next_of_not_joins hjoins] at h
    cases h
    refine next_of_not_joins ?_
    cases s with
    | nil => exact ht rfl
    | cons d s => exact hjoins

/-- Unless it is text, the first cut stays as it is if no quote comes after a quote and a brace. -/
theorem next_append_of_not_text {c : Char} {s rest t : List Char} {cut : Cut}
    (h : next c s = .ok (cut, rest)) (htext : ∀ d, cut ≠ text d)
    (ht : ['\'', '}'] <:+ c :: s → t.head? ≠ some '\'') :
    next c (s ++ t) = .ok (cut, rest ++ t) := by
  refine next_append h ?_
  rintro rfl hjoins
  obtain ⟨hsuffix, hhead⟩ := suffix_of_joins hjoins htext
  rw [← append_of_next h, List.append_nil] at ht
  exact ht hsuffix hhead

/-- A text that begins with no cut could be mended by more text. -/
theorem isOpenEnd_of_next {c : Char} {s : List Char} {cause : Cause} (h : next c s = .error cause) :
    cause.isOpenEnd = true := by
  by_cases hjoins : (text c).Joins s
  · rcases exists_of_joins hjoins with ⟨r, rfl, rfl⟩ | ⟨r, rfl, rfl⟩ | ⟨bracing, make, r, -, hr⟩
    · cases h
    · rw [next_comment] at h
      cases hsplit : splitComment? r with
      | none =>
        rw [hsplit] at h
        cases h
        rfl
      | some split =>
        rw [hsplit] at h
        cases h
    · have hcut := hr []
      rw [List.append_nil, List.append_nil, h, braced] at hcut
      split at hcut
      · cases hcut
      · next e _ =>
        cases hcut
        cases e <;> rfl
  · rw [next_of_not_joins hjoins] at h
    cases h

end Cut

end TextTemplate
