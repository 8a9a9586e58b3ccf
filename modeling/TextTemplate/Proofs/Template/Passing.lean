import TextTemplate.Proofs.Template.Literals
import TextTemplate.Proofs.Template.Runs

/-!
# Tokens in braces

The reader of text in braces passes over a token as over any text, and stands at its end then. That
is so for all tokens but three kinds, which it takes for something else.

- `Braced.Reads`: a text is read as it stands.
- `Braced.Fresh`: no word goes on here, so that an `r` begins a literal.
- `Braced.misreads`: the tokens that are taken for something else.
- `Braced.Passes`: a token is passed over.
- `passes_literal`, `passes_mark`, `passes_word`: by the kind of the token.
- `passes_leaf`: every token that is not misread is passed over.
-/

namespace TextTemplate

namespace Braced

open Text

/-! ## Reading text as it stands -/

/-- A text is read as it stands, and the reader goes on at the same depth. -/
def Reads (before u tail : List Char) : Prop :=
  ∀ depth, readFrom depth before (u ++ tail) =
    prepend u (readFrom depth (u.reverse ++ before) tail)

section

variable {before u v w tail t : List Char} {c : Char} {o : Opening}

theorem Reads.nil : Reads before [] tail := fun _ => (prepend_nil _).symm

/-- One text after another. -/
theorem Reads.append (hu : Reads before u (v ++ tail)) (hv : Reads (u.reverse ++ before) v tail) :
    Reads before (u ++ v) tail := by
  intro depth
  rw [List.append_assoc, hu, hv, prepend_prepend, List.reverse_append, List.append_assoc]

theorem reads_literal (ho : Opening.at? before c (t ++ tail) = some o) (ht : o.Ends t) :
    Reads before (c :: t) tail := by
  intro depth
  rw [List.cons_append, readFrom_literal ho (ht tail), List.reverse_cons, List.append_assoc]
  rfl

theorem reads_char (ho : Opening.at? before c tail = none) (hc : c ∉ ['{', '}']) :
    Reads before [c] tail := by
  intro depth
  simp only [List.mem_cons, List.not_mem_nil, or_false, not_or] at hc
  rw [List.singleton_append, readFrom_char ho hc.2, if_neg hc.1]
  rfl

theorem reads_plain (hw : ∀ c ∈ w, c ∉ ['"', '\'', 'r', '{', '}']) : Reads before w tail := by
  induction w generalizing before with
  | nil => exact .nil
  | cons c w ih =>
    obtain ⟨hc, hw⟩ := List.forall_mem_cons.1 hw
    have hchar : Reads before [c] (w ++ tail) := fun depth => readFrom_plain depth before _ hc
    exact hchar.append (ih hw)

/-- Quiet characters are read as they stand, unless the last one is an `r` that begins a literal. -/
theorem reads_quiet (hw : ∀ c ∈ w, Quiet c)
    (hlast : ∀ v, w = v ++ ['r'] → Opening.startsToken (v.reverse ++ before) = true →
      Opening.hashes? tail = none) : Reads before w tail := by
  induction w generalizing before with
  | nil => exact .nil
  | cons c w ih =>
    obtain ⟨hc, hw⟩ := List.forall_mem_cons.1 hw
    have hchar : Opening.at? before c (w ++ tail) = none := by
      match w, hw with
      | d :: w, hw => exact at?_eq_none hc (.inl (hw d List.mem_cons_self))
      | [], _ =>
        have hc' := hc
        simp only [Quiet, List.mem_cons, not_or] at hc'
        rw [Opening.at?, if_neg hc'.1, if_neg hc'.2.1]
        split
        · next hr =>
          subst hr
          split
          · next hstart =>
            rw [List.nil_append, hlast [] rfl hstart]
            rfl
          · rfl
        · rfl
    have hbraces : c ∉ ['{', '}'] := fun h => hc (List.mem_cons_of_mem _
      (List.mem_cons_of_mem _ (List.mem_cons_of_mem _ h)))
    refine (reads_char hchar hbraces).append (ih hw fun v hv => ?_)
    subst hv
    have hlast := hlast (c :: v) rfl
    rwa [List.reverse_cons, List.append_assoc] at hlast

end

/-! ## Where a token may begin -/

/-- No word that was begun before goes on with the text. -/
def Fresh (before s : List Char) : Prop :=
  Word.continues s = true → before.head?.any isWordChar = false

theorem fresh_of_continues {before s : List Char} (h : Word.continues s = false) :
    Fresh before s := fun h' => absurd h' (Bool.eq_false_iff.1 h)

theorem fresh_after {c : Char} (hc : isWordChar c = false) (u before s : List Char) :
    Fresh ((u ++ [c]).reverse ++ before) s := by
  intro _
  rw [List.reverse_append]
  exact hc

/-- Where no word goes on an `r` begins a literal, and so do `b` and `r`. -/
theorem startsToken_of_head {before : List Char} (h : before.head?.any isWordChar = false) :
    Opening.startsToken before = true ∧ Opening.startsToken ('b' :: before) = true := by
  have hb : isWordChar 'b' = true := isWordChar_of_ascii (by decide)
  match before, h with
  | [], _ => exact ⟨rfl, rfl⟩
  | c :: before, h =>
    have hc : isWordChar c = false := h
    have hne : c ≠ 'b' := by
      rintro rfl
      rw [hb] at hc
      exact Bool.noConfusion hc
    simp [Opening.startsToken, hc, hne]

/-- What comes before a token has no influence on an `r` in it. -/
theorem startsToken_append {x before : List Char}
    (h : before.head?.any isWordChar = false ∨ x ∉ [[], ['b']]) :
    Opening.startsToken (x ++ before) = Opening.startsToken x := by
  match x with
  | [] => exact (startsToken_of_head (h.resolve_right (by simp))).1
  | ['b'] => exact (startsToken_of_head (h.resolve_right (by simp))).2
  | 'b' :: c :: x => rfl
  | [c] =>
    by_cases hc : c = 'b'
    · subst hc
      exact (startsToken_of_head (h.resolve_right (by simp))).2
    · simp [Opening.startsToken, hc]
  | c :: d :: x =>
    by_cases hc : c = 'b'
    · subst hc
      rfl
    · simp [Opening.startsToken, hc]

/-! ## Misread tokens -/

/-- Whether the end of a token is taken for the beginning of a raw literal: its last character is an
`r` that no letter comes before, and the text goes on with a quote, or with `#` and a quote. -/
def endsLikeRaw (u r : List Char) : Bool :=
  match u.reverse with
  | 'r' :: v => Opening.startsToken v && (Opening.hashes? r).isSome
  | _ => false

theorem endsLikeRaw_append (v r : List Char) : endsLikeRaw (v ++ ['r']) r =
    (Opening.startsToken v.reverse && (Opening.hashes? r).isSome) := by
  rw [endsLikeRaw, List.reverse_append]
  rfl

/-- Whether a token is a raw literal that is read like a plain one, because of the letter before the
`r`, and would be another literal then. -/
def isForeignRaw (u : List Char) : Bool :=
  ['c', 'r'].isPrefixOf u && (u.contains '\\' || 2 < u.count '"')

/-- Whether a token is the literal of a single quote without a backslash before it. -/
def isBareQuote (u : List Char) : Bool :=
  ['\'', '\'', '\''].isPrefixOf u || ['b', '\'', '\'', '\''].isPrefixOf u

/-- Whether a token is taken for something else if a text follows. -/
def misreads (u r : List Char) : Bool := isBareQuote u || isForeignRaw u || endsLikeRaw u r

theorem of_misreads_eq_false {u r : List Char} (h : misreads u r = false) :
    isBareQuote u = false ∧ isForeignRaw u = false ∧ endsLikeRaw u r = false := by
  simpa only [misreads, Bool.or_eq_false_iff, and_assoc] using h

/-! ## Tokens that are passed over -/

/-- The text up to `r` is read as it stands, and a token may begin then. -/
def Passes (before s r rest : List Char) : Prop :=
  ∃ u, s = u ++ r ∧ Reads before u (r ++ '}' :: rest) ∧ Fresh (u.reverse ++ before) r

/-- A closing brace is no part of the beginning of a literal. -/
theorem hashes?_append_brace {r : List Char} (h : Opening.hashes? r = none) (rest : List Char) :
    Opening.hashes? (r ++ '}' :: rest) = none := by
  induction r with
  | nil => rfl
  | cons c r ih =>
    by_cases hc : c = '#'
    · subst hc
      rw [Opening.hashes?_hash_cons, Option.map_eq_none_iff] at h
      rw [List.cons_append, Opening.hashes?_hash_cons, ih h]
      rfl
    · have hquote : c ≠ '"' := by
        rintro rfl
        cases h
      simp [Opening.hashes?, hc, hquote]

section

variable {before k w r rest : List Char}

/-- If a token is not misread, an `r` at its end begins no literal. -/
theorem hashes?_of_last (hfresh : Fresh before (k ++ w ++ r))
    (hread : endsLikeRaw (k ++ w) r = false) {v : List Char} (hv : w = v ++ ['r'])
    (hstart : Opening.startsToken (v.reverse ++ (k.reverse ++ before)) = true) :
    Opening.hashes? (r ++ '}' :: rest) = none := by
  subst hv
  have htoken : Opening.startsToken (k ++ v).reverse = true := by
    have hx : before.head?.any isWordChar = false ∨ (k ++ v).reverse ∉ [[], ['b']] := by
      by_cases hmem : (k ++ v).reverse ∈ [[], ['b']]
      · refine .inl (hfresh ?_)
        have hfront : k ++ v = [] ∨ k ++ v = ['b'] := by
          revert hmem
          generalize k ++ v = x
          simp [List.reverse_eq_iff]
        rw [← List.append_assoc]
        rcases hfront with hfront | hfront <;> rw [hfront]
        · exact isIdentifierContinue_of_ascii (c := 'r') (by decide)
        · exact isIdentifierContinue_of_ascii (c := 'b') (by decide)
      · exact .inr hmem
    rw [← startsToken_append hx, List.reverse_append, List.append_assoc]
    exact hstart
  rw [← List.append_assoc, endsLikeRaw_append, htoken, Bool.true_and] at hread
  exact hashes?_append_brace (by simpa using hread) rest

/-- A text that is read as it stands is passed over together with the quiet characters after it. -/
theorem passes_quiet (hk : Reads before k (w ++ (r ++ '}' :: rest))) (hw : ∀ c ∈ w, Quiet c)
    (hend : Word.continues r = false ∨ w = [] ∧ ∃ k' c, k = k' ++ [c] ∧ isWordChar c = false)
    (hfresh : Fresh before (k ++ w ++ r)) (hread : endsLikeRaw (k ++ w) r = false) :
    Passes before (k ++ w ++ r) r rest := by
  refine ⟨k ++ w, rfl, hk.append (reads_quiet hw fun v => hashes?_of_last hfresh hread), ?_⟩
  rcases hend with hend | ⟨rfl, k', c, rfl, hc⟩
  · exact fresh_of_continues hend
  · rw [List.append_nil]
    exact fresh_after hc k' before r

end

/-! ## Literals -/

section

variable {before f r rest : List Char}

/-- A literal that is read as it stands is passed over with its suffix. -/
theorem passes_suffix {k s : List Char} (hk : ∀ tail, Reads before k tail)
    (hlast : ∃ k' c, k = k' ++ [c] ∧ isWordChar c = false) (hfresh : Fresh before (k ++ s))
    (hread : ∀ u, k ++ s = u ++ Word.dropSuffix s → endsLikeRaw u (Word.dropSuffix s) = false) :
    Passes before (k ++ s) (Word.dropSuffix s) rest := by
  obtain ⟨w, hs, hw, hend⟩ := exists_of_dropSuffix s
  have htext : k ++ s = k ++ w ++ Word.dropSuffix s := by rw [List.append_assoc, ← hs]
  have hread := hread _ htext
  rw [htext] at hfresh ⊢
  refine passes_quiet (hk _) hw ?_ hfresh hread
  rcases hend with rfl | hend
  · exact .inr ⟨rfl, hlast⟩
  · exact .inl hend

theorem reads_quoted {p t : List Char} (hp : p ∈ [[], ['b'], ['c']])
    (ht : (Opening.quoted '"').Ends t) (tail : List Char) :
    Reads before (p ++ '"' :: t) tail := by
  have hplain : ∀ c ∈ p, c ∉ ['"', '\'', 'r', '{', '}'] := by
    simp only [List.mem_cons, List.not_mem_nil, or_false] at hp
    rcases hp with rfl | rfl | rfl <;> exact forall_mem_of_all (by decide)
  exact (reads_plain hplain).append (reads_literal rfl ht)

theorem exists_last_guarded (n : Nat) (b : List Char) :
    ∃ w c, StringLiteral.guarded n b = w ++ [c] ∧ isWordChar c = false := by
  cases n with
  | zero => exact ⟨'"' :: b, '"', rfl, isWordChar_eq_false (by decide)⟩
  | succ n =>
    refine ⟨List.replicate (n + 1) '#' ++ '"' :: (b ++ '"' :: List.replicate n '#'), '#', ?_,
      isWordChar_eq_false (by decide)⟩
    simp [StringLiteral.guarded, List.replicate_succ']

theorem hashes?_guarded (n : Nat) (b tail : List Char) :
    Opening.hashes? (StringLiteral.guarded n b ++ tail) = some n := by
  rw [StringLiteral.guarded, List.append_assoc, List.cons_append]
  exact Opening.hashes?_replicate n _

/-- Raw literals are read as such after `r` and `br`. -/
theorem reads_raw {p b : List Char} {n : Nat} (hp : p = [] ∨ p = ['b'])
    (hbefore : before.head?.any isWordChar = false)
    (hb : (Opening.raw n).Ends (StringLiteral.guarded n b)) (tail : List Char) :
    Reads before (p ++ 'r' :: StringLiteral.guarded n b) tail := by
  have hraw {before : List Char} (hstart : Opening.startsToken before = true) :
      Reads before ('r' :: StringLiteral.guarded n b) tail := by
    refine reads_literal ?_ hb
    rw [Opening.at?, if_neg (by decide), if_neg (by decide), if_pos rfl, if_pos hstart,
      hashes?_guarded]
    rfl
  obtain ⟨hr, hbr⟩ := startsToken_of_head hbefore
  rcases hp with rfl | rfl
  · exact hraw hr
  · exact (reads_plain (w := ['b']) (by simp)).append (hraw hbr)

/-- After `cr` they are read like plain ones, which is the same if there are neither backslashes nor
quotes in them. -/
theorem reads_foreign {b : List Char} {n : Nat} (hb : ∀ c ∈ b, c ≠ '\\' ∧ c ≠ '"')
    (tail : List Char) : Reads before ('c' :: 'r' :: StringLiteral.guarded n b) tail := by
  have hhashes : ∀ c ∈ List.replicate n '#', c ∉ ['"', '\'', 'r', '{', '}'] := by
    intro c hc
    rw [List.eq_of_mem_replicate hc]
    decide
  have hc : isWordChar 'c' = true := isWordChar_of_ascii (by decide)
  have hr {tail : List Char} : Opening.at? ('c' :: before) 'r' tail = none := by
    rw [Opening.at?, if_neg (by decide), if_neg (by decide), if_pos rfl]
    simp [Opening.startsToken, hc]
  have hquoted : (Opening.quoted '"').Ends (b ++ ['"']) :=
    Opening.Ends.after (Opening.ends_close (by decide)) hb
  have htext : 'c' :: 'r' :: StringLiteral.guarded n b =
      ['c'] ++ (['r'] ++ (List.replicate n '#' ++ (('"' :: (b ++ ['"'])) ++
        List.replicate n '#'))) := by
    simp [StringLiteral.guarded]
  rw [htext]
  exact (reads_plain (by simp)).append ((reads_char hr (by decide)).append
    ((reads_plain hhashes).append ((reads_literal rfl hquoted).append (reads_plain hhashes))))

theorem forall_mem_of_not_foreign {b w : List Char} {n : Nat}
    (h : isForeignRaw ('c' :: 'r' :: StringLiteral.guarded n b ++ w) = false) :
    ∀ c ∈ b, c ≠ '\\' ∧ c ≠ '"' := by
  have hprefix : ['c', 'r'].isPrefixOf ('c' :: 'r' :: StringLiteral.guarded n b ++ w) = true := by
    simp [List.isPrefixOf]
  rw [isForeignRaw, hprefix, Bool.true_and, Bool.or_eq_false_iff] at h
  obtain ⟨hback, hquotes⟩ := h
  intro c hc
  refine ⟨?_, ?_⟩
  · rintro rfl
    have hmem : '\\' ∈ 'c' :: 'r' :: StringLiteral.guarded n b ++ w := by
      simp [StringLiteral.guarded, hc]
    rw [List.contains_iff_mem.2 hmem] at hback
    exact Bool.noConfusion hback
  · rintro rfl
    have hpos : 0 < b.count '"' := List.count_pos_iff.2 hc
    have hcount : b.count '"' + 2 ≤ ('c' :: 'r' :: StringLiteral.guarded n b ++ w).count '"' := by
      simp [StringLiteral.guarded]
      omega
    have := of_decide_eq_false hquotes
    omega

/-- String literals are passed over. -/
theorem passes_string {v s : List Char} (h : StringLiteral.string? f = some (v, s))
    (hfresh : Fresh before f)
    (hread : ∀ u, f = u ++ Word.dropSuffix s → misreads u (Word.dropSuffix s) = false) :
    Passes before f (Word.dropSuffix s) rest := by
  obtain ⟨p, hp, ⟨t, rfl, ht⟩ | ⟨n, b, rfl, hb⟩⟩ := StringLiteral.exists_of_string? h
  · obtain ⟨w, rfl⟩ := ht.exists_close
    have hquote : isWordChar '"' = false := isWordChar_eq_false (by decide)
    refine passes_suffix (reads_quoted hp ht) ⟨p ++ '"' :: w, '"', by simp, hquote⟩ hfresh
      fun u hu => (of_misreads_eq_false (hread u hu)).2.2
  · obtain ⟨w, c, hguarded, hc⟩ := exists_last_guarded n b
    have hlast : ∃ k' c, p ++ 'r' :: StringLiteral.guarded n b = k' ++ [c] ∧
        isWordChar c = false := ⟨p ++ 'r' :: w, c, by simp [hguarded], hc⟩
    refine passes_suffix (fun tail => ?_) hlast hfresh fun u hu =>
      (of_misreads_eq_false (hread u hu)).2.2
    simp only [List.mem_cons, List.not_mem_nil, or_false] at hp
    rcases hp with rfl | rfl | rfl
    · have hr : isIdentifierContinue 'r' = true := isIdentifierContinue_of_ascii (by decide)
      exact reads_raw (.inl rfl) (hfresh hr) hb tail
    · have hb' : isIdentifierContinue 'b' = true := isIdentifierContinue_of_ascii (by decide)
      exact reads_raw (.inr rfl) (hfresh hb') hb tail
    · obtain ⟨w, hs, -⟩ := exists_of_dropSuffix s
      have hforeign := (of_misreads_eq_false (hread (['c'] ++ 'r' :: StringLiteral.guarded n b ++ w)
        (by rw [List.append_assoc _ w, ← hs]))).2.1
      exact reads_foreign (forall_mem_of_not_foreign hforeign) tail

theorem reads_character {p t : List Char} (hp : p ∈ [[], ['b']])
    (hstart : ∀ x, Opening.startsCharacter (t ++ x) = true) (ht : (Opening.quoted '\'').Ends t)
    (tail : List Char) : Reads before (p ++ '\'' :: t) tail := by
  have hplain : ∀ c ∈ p, c ∉ ['"', '\'', 'r', '{', '}'] := by
    simp only [List.mem_cons, List.not_mem_nil, or_false] at hp
    rcases hp with rfl | rfl <;> exact forall_mem_of_all (by decide)
  refine (reads_plain hplain).append (reads_literal (o := .quoted '\'') ?_ ht)
  rw [Opening.at?, if_neg (by decide), if_pos rfl, hstart]
  rfl

/-- A character literal that is taken for one and begins with a quote is that quote. -/
theorem isBareQuote_of_head {p t w : List Char} (hp : p ∈ [[], ['b']])
    (hstart : ∀ x, Opening.startsCharacter (t ++ x) = true) (ht : t.head? = some '\'') :
    isBareQuote (p ++ '\'' :: t ++ w) = true := by
  match t with
  | [] => exact absurd ht (Option.some_ne_none _).symm
  | [c] =>
    obtain rfl : c = '\'' := Option.some.inj ht
    exact absurd (hstart []) (by decide)
  | c :: d :: t =>
    obtain rfl : c = '\'' := Option.some.inj ht
    have hd : d = '\'' := Decidable.byContradiction fun hd => by
      have hno := hstart []
      simp [Opening.startsCharacter, hd] at hno
    subst hd
    simp only [List.mem_cons, List.not_mem_nil, or_false] at hp
    rcases hp with rfl | rfl <;> simp [isBareQuote, List.isPrefixOf]

/-- Character literals are passed over. -/
theorem passes_character {c : Char} {s : List Char}
    (h : StringLiteral.character? f = some (c, s)) (hfresh : Fresh before f)
    (hread : ∀ u, f = u ++ Word.dropSuffix s → misreads u (Word.dropSuffix s) = false) :
    Passes before f (Word.dropSuffix s) rest := by
  obtain ⟨p, hp, t, rfl, hstart, ht⟩ := StringLiteral.exists_of_character? h
  obtain ⟨w, hs, -⟩ := exists_of_dropSuffix s
  have hbare := (of_misreads_eq_false (hread (p ++ '\'' :: t ++ w)
    (by rw [List.append_assoc _ w, ← hs]))).1
  have hends := ht fun hhead => by
    rw [isBareQuote_of_head hp hstart hhead] at hbare
    exact Bool.noConfusion hbare
  obtain ⟨v, rfl⟩ := hends.exists_close
  have hquote : isWordChar '\'' = false := isWordChar_eq_false (by decide)
  exact passes_suffix (reads_character hp hstart hends)
    ⟨p ++ '\'' :: v, '\'', by simp, hquote⟩ hfresh
    fun u hu => (of_misreads_eq_false (hread u hu)).2.2

/-- Literals are passed over. -/
theorem passes_literal (h : Lexeme.dropLiteral? f = some r) (hfresh : Fresh before f)
    (hread : ∀ u, f = u ++ r → misreads u r = false) : Passes before f r rest := by
  rw [Lexeme.dropLiteral?.eq_def] at h
  split at h
  · next hstring =>
    obtain rfl := Option.some.inj h
    exact passes_string hstring hfresh hread
  · split at h
    · next hcharacter =>
      obtain rfl := Option.some.inj h
      exact passes_character hcharacter hfresh hread
    · have hnumber : Drops f r ∧ Word.continues r = false := by
        rcases Option.or_eq_some_iff.1 h with h | ⟨-, h⟩
        · exact drops_dropFloat? h
        · exact drops_dropInt? h
      obtain ⟨⟨w, rfl, hw⟩, hend⟩ := hnumber
      exact passes_quiet (k := []) .nil hw (.inl hend) hfresh
        (of_misreads_eq_false (hread w rfl)).2.2

/-! ## Marks, words and all tokens -/

/-- A character that is no letter is passed over if it is read as it stands. -/
theorem passes_singleton {c : Char} (h : Reads before [c] (r ++ '}' :: rest))
    (hc : isWordChar c = false) : Passes before (c :: r) r rest :=
  ⟨[c], rfl, h, fresh_after hc [] before r⟩

/-- A word with no quote after it is not taken for the inside of a character literal. -/
theorem startsCharacter_eq_false {s w after : List Char}
    (h : Word.splitAny? s = some (w, after)) (hafter : after.head? ≠ some '\'') (rest : List Char) :
    Opening.startsCharacter (s ++ '}' :: rest) = false := by
  have hstart {c d : Char} {t : List Char} (hc : c ≠ '\\') (hd : d ≠ '\'') :
      Opening.startsCharacter (c :: d :: t) = false := by
    simp [Opening.startsCharacter, hc, hd]
  obtain ⟨p, hp, t, v, rfl, hv⟩ := exists_of_splitAny? h
  obtain ⟨⟨c, v, rfl, hc⟩, rfl, hquiet, -⟩ := exists_of_split? hv
  have hback : c ≠ '\\' := by
    rintro rfl
    have hno : isIdentifierStart '\\' = false := isIdentifierStart_of_ascii (by decide)
    rw [hno] at hc
    exact Bool.noConfusion hc
  simp only [List.mem_cons, List.not_mem_nil, or_false] at hp
  rcases hp with rfl | rfl
  · match v, after with
    | d :: v, _ =>
      have hd := hquiet d (List.mem_cons_of_mem _ List.mem_cons_self)
      simp only [Quiet, List.mem_cons, not_or] at hd
      exact hstart hback hd.2.1
    | [], d :: after => exact hstart hback fun hd => hafter (congrArg some hd)
    | [], [] => exact hstart hback (by decide)
  · exact hstart (by decide) (by decide)

/-- Marks are passed over, those of lifetimes among them. -/
theorem passes_mark {t : Token} (h : Lexeme.mark? f = some (t, r)) : Passes before f r rest := by
  have hsign {f r : List Char} {c : Char} (h : Lexeme.sign? f = some (c, r)) :
      f = c :: r ∧ c ∈ Lexeme.signs := by
    rw [Lexeme.sign?.eq_def] at h
    split at h
    · cases h
    · cases h
    · split at h
      · next hc =>
        obtain ⟨rfl, rfl⟩ := Prod.mk.inj (Option.some.inj h)
        exact ⟨rfl, hc⟩
      · cases h
    · cases h
  have hsigns : ∀ c ∈ Lexeme.signs, c.toNat < 0x80 ∧ (c.isAlphanum || c == '_') = false :=
    forall_mem_of_all (by decide)
  have hword : ∀ c ∈ Lexeme.signs, isWordChar c = false :=
    fun c hc => isWordChar_eq_false (hsigns c hc)
  have hplain : ∀ c ∈ Lexeme.signs, c ≠ '\'' → c ∉ ['"', '\'', 'r', '{', '}'] :=
    forall_mem_of_all (by decide)
  rw [Lexeme.mark?.eq_def] at h
  split at h
  · cases h
  · next s hs =>
    obtain ⟨rfl, hc⟩ := hsign hs
    split at h
    · next w after hw =>
      split at h
      · cases h
      · next hafter =>
        obtain ⟨-, rfl⟩ := Prod.mk.inj (Option.some.inj h)
        refine passes_singleton (reads_char ?_ (by decide)) (hword _ hc)
        rw [Opening.at?, if_neg (by decide), if_pos rfl, startsCharacter_eq_false hw]
        · rfl
        · simp only [Bool.or_eq_true, beq_iff_eq, not_or] at hafter
          exact hafter.1
    · cases h
  · next c s hne hs =>
    obtain ⟨rfl, hc⟩ := hsign hs
    obtain ⟨-, rfl⟩ := Prod.mk.inj (Option.some.inj h)
    have hquote : c ≠ '\'' := by
      rintro rfl
      exact hne rfl
    exact passes_singleton (reads_plain (List.forall_mem_singleton.2 (hplain c hc hquote)))
      (hword c hc)

/-- Words are passed over, in their plain and in their raw form. -/
theorem passes_word {t : Token} (h : Lexeme.word? f = some (t, r)) (hfresh : Fresh before f)
    (hread : ∀ u, f = u ++ r → misreads u r = false) : Passes before f r rest := by
  rw [Lexeme.word?] at h
  split at h
  · cases h
  · simp only [Option.map_eq_some_iff, Prod.exists, Prod.mk.injEq] at h
    obtain ⟨w, r, hw, -, rfl⟩ := h
    obtain ⟨p, hp, s, v, rfl, hv⟩ := exists_of_splitAny? hw
    obtain ⟨⟨c, v, rfl, hc⟩, rfl, hquiet, hend⟩ := exists_of_split? hv
    have hfront : Reads before p (c :: v ++ (r ++ '}' :: rest)) := by
      simp only [List.mem_cons, List.not_mem_nil, or_false] at hp
      rcases hp with rfl | rfl
      · exact .nil
      · -- The `#` of a raw word is followed by a letter, not by a quote.
        have hc := quiet_of_isIdentifierStart hc
        simp only [Quiet, List.mem_cons, not_or] at hc
        have hnone {s : List Char} : Opening.at? before 'r' ('#' :: c :: s) = none := by
          have hhashes : Opening.hashes? ('#' :: c :: s) = none := by
            simp [Opening.hashes?, hc.1, hc.2.2.1]
          rw [Opening.at?, if_neg (by decide), if_neg (by decide), if_pos rfl, hhashes]
          split <;> rfl
        have hr : Reads before ['r'] (['#'] ++ (c :: v ++ (r ++ '}' :: rest))) :=
          reads_char hnone (by decide)
        exact hr.append (reads_plain (by simp))
    rw [← List.append_assoc] at hfresh hread ⊢
    exact passes_quiet hfront hquiet (.inl hend) hfresh (of_misreads_eq_false (hread _ rfl)).2.2

/-- Every token that is not misread is passed over. -/
theorem passes_leaf {t : Token} (h : Lexeme.leaf? f = some (t, r)) (hfresh : Fresh before f)
    (hread : ∀ u, f = u ++ r → misreads u r = false) : Passes before f r rest := by
  rw [Lexeme.leaf?.eq_def] at h
  split at h
  · next hliteral =>
    simp only [Lexeme.literal?, Option.map_eq_some_iff] at hliteral
    obtain ⟨r', hr', rfl⟩ := hliteral
    obtain ⟨-, rfl⟩ := Prod.mk.inj (Option.some.inj h)
    exact passes_literal hr' hfresh hread
  · split at h
    · next hmark =>
      obtain rfl := Option.some.inj h
      exact passes_mark hmark
    · split at h
      · next hword =>
        obtain rfl := Option.some.inj h
        exact passes_word hword hfresh hread
      · split at h
        · next hprefix =>
          obtain ⟨-, rfl⟩ := Prod.mk.inj (Option.some.inj h)
          obtain ⟨s, rfl⟩ := List.isPrefixOf_iff_prefix.1 hprefix
          rw [List.drop_left]
          refine ⟨Lexeme.errorMark, rfl, reads_plain (forall_mem_of_all (by decide)), ?_⟩
          exact fresh_after (isWordChar_eq_false (c := ')') (by decide)) "(/*ERROR*/".toList _ _
        · cases h

end

end Braced

end TextTemplate
