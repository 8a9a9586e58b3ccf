import TextTemplate.Code.Source
import TextTemplate.Proofs.Template.Passing

/-!
# Code in braces

Code that splits into tokens may stand in braces: the reader of text in braces counts the braces
that are delimiters of the code, and these are balanced.

- `Comment.starts`: whether a text starts with a comment of any kind.
- `Lexeme.fronts`, `Lexeme.allFronts`: what is left of a text at the beginning of each token.
- `Placed.braces`: the number of groups in braces that are open.
- `readFrom_gap`, `readFrom_opening`, `readFrom_closing`: blank space and delimiters.
- `readFrom_of_from?`: tokens are read up to the brace behind them, by induction on the tokens.
- `Braced.closed_of_tokens`: the main statement.
- `Overlooked`, `not_closed_of_misread`: code that is misread, and that there is such code.
-/

namespace TextTemplate

/-! ## Comments and blank space -/

namespace Comment

/-- Whether a text starts with a comment of any kind. -/
def starts : List Char → Bool
  | '/' :: '/' :: _ => true
  | '/' :: '*' :: _ => true
  | _ => false

variable {s : List Char}

theorem starts_of_startsLine (h : startsLine s = true) : starts s = true := by
  rw [startsLine.eq_def] at h
  split at h
  · rfl
  · cases h
  · cases h
  · rfl
  · cases h

theorem starts_of_startsBlock (h : startsBlock s = true) : starts s = true := by
  rw [startsBlock.eq_def] at h
  split at h
  · rfl
  · rfl
  · cases h
  · cases h
  · rfl
  · cases h

/-- No blank space stands before the beginning of a comment. -/
theorem dropWhile_of_starts (h : starts s = true) : s.dropWhile isGap = s := by
  have hgap : isGap '/' = false := by decide
  rw [starts.eq_def] at h
  split at h
  · rw [List.dropWhile_cons, hgap]
    rfl
  · rw [List.dropWhile_cons, hgap]
    rfl
  · cases h

/-- Where no comment follows, only blank space is passed over. -/
theorem skip_eq_dropWhile (h : starts (s.dropWhile isGap) = false) :
    skip s = s.dropWhile isGap := by
  have hstarts {s : List Char} (hs : starts s = true) :
      starts (s.dropWhile isGap) = true := by rwa [dropWhile_of_starts hs]
  fun_induction skip s with
  | case1 => rfl
  | case2 c s hline _ =>
    exact absurd (hstarts (starts_of_startsLine hline)) (Bool.eq_false_iff.1 h)
  | case3 c s _ hblock _ _ _ =>
    exact absurd (hstarts (starts_of_startsBlock hblock)) (Bool.eq_false_iff.1 h)
  | case4 c s _ hblock _ =>
    exact absurd (hstarts (starts_of_startsBlock hblock)) (Bool.eq_false_iff.1 h)
  | case5 c s _ _ hgap ih =>
    rw [List.dropWhile_cons, if_pos hgap] at h ⊢
    exact ih h
  | case6 c s _ _ hgap => rw [List.dropWhile_cons, if_neg hgap]

theorem documentation?_eq_none (h : starts s = false) : documentation? s = none := by
  rw [documentation?.eq_def]
  dsimp only
  split
  · cases h
  · rfl
  · cases h
  · cases h
  · rfl
  · cases h
  · rfl

end Comment

/-! ## The beginnings of tokens -/

namespace Lexeme

/-- What is left of a text at the beginning of each token. Blank space between tokens is passed
over, comments are not. -/
def fronts (s : List Char) : List (List Char) :=
  let f := s.dropWhile Comment.isGap
  if f = [] then []
  else
    match next? f with
    | some (_, r) => if r.length < f.length then f :: fronts r else [f]
    | none => [f]
termination_by s.length
decreasing_by
  have h : f.length ≤ s.length := (List.dropWhile_sublist Comment.isGap).length_le
  omega

/-- The same for a whole text, which may begin with a byte order mark. -/
def allFronts : List Char → List (List Char)
  | '\ufeff' :: s => fronts s
  | s => fronts s

section

variable {s f : List Char}

theorem mem_fronts (hf : s.dropWhile Comment.isGap = f) (hne : f ≠ []) : f ∈ fronts s := by
  subst hf
  rw [fronts, if_neg hne]
  split
  · split
    · exact List.mem_cons_self
    · exact List.mem_singleton.2 rfl
  · exact List.mem_singleton.2 rfl

/-- What is left after a token has the beginnings of the other tokens. -/
theorem fronts_subset (hf : s.dropWhile Comment.isGap = f) (hne : f ≠ []) {lexeme : Lexeme}
    {r : List Char} (hnext : next? f = some (lexeme, r)) (hlt : r.length < f.length) :
    fronts r ⊆ fronts s := by
  subst hf
  rw [fronts.eq_def s, if_neg hne, hnext]
  dsimp only
  rw [if_pos hlt]
  exact List.subset_cons_self _ _

/-- If there are no comments, only blank space stands before a token. -/
theorem skip_of_fronts (h : ∀ f ∈ fronts s, Comment.starts f = false) :
    Comment.skip s = s.dropWhile Comment.isGap := by
  refine Comment.skip_eq_dropWhile ?_
  by_cases hne : s.dropWhile Comment.isGap = []
  · rw [hne]
    rfl
  · exact h _ (mem_fronts rfl hne)

end

/-- Whether the token at the front of a text is taken for something else in braces. -/
def isMisread (f : List Char) : Bool :=
  match next? f with
  | some (_, r) => Braced.misreads (f.take (f.length - r.length)) r
  | none => false

theorem misreads_of_next? {f u r : List Char} {lexeme : Lexeme}
    (h : next? f = some (lexeme, r)) (hf : f = u ++ r) (hread : isMisread f = false) :
    Braced.misreads u r = false := by
  subst hf
  rw [isMisread, h] at hread
  simpa using hread

/-- A delimiter is one character. -/
theorem exists_of_delimiter? {f r : List Char} {lexeme : Lexeme}
    (h : delimiter? f = some (lexeme, r)) :
    ∃ d, f = d.opening :: r ∧ lexeme = .opening d ∨ f = d.closing :: r ∧ lexeme = .closing d := by
  have hopening {c : Char} {d : Delimiter} (h : Delimiter.ofOpening? c = some d) :
      c = d.opening := by
    simp only [Delimiter.ofOpening?] at h
    split at h
    · next hc => cases h; exact hc
    · split at h
      · next hc => cases h; exact hc
      · split at h
        · next hc => cases h; exact hc
        · cases h
  have hclosing {c : Char} {d : Delimiter} (h : Delimiter.ofClosing? c = some d) :
      c = d.closing := by
    simp only [Delimiter.ofClosing?] at h
    split at h
    · next hc => cases h; exact hc
    · split at h
      · next hc => cases h; exact hc
      · split at h
        · next hc => cases h; exact hc
        · cases h
  rw [delimiter?.eq_def] at h
  split at h
  · cases h
  · split at h
    · cases h
    · split at h
      · next d hd =>
        obtain ⟨rfl, rfl⟩ := Prod.mk.inj (Option.some.inj h)
        exact ⟨d, .inl ⟨by rw [hopening hd], rfl⟩⟩
      · obtain ⟨d, hd, hpair⟩ := Option.map_eq_some_iff.1 h
        obtain ⟨rfl, rfl⟩ := Prod.mk.inj hpair
        exact ⟨d, .inr ⟨by rw [hclosing hd], rfl⟩⟩

end Lexeme

namespace Lexeme

/-- The number of braces that a lexeme opens. -/
def bracesOpened : Lexeme → Nat
  | opening .brace => 1
  | opening _ | closing _ | tokens _ => 0

/-- The number of braces that a lexeme closes. -/
def bracesClosed : Lexeme → Nat
  | closing .brace => 1
  | opening _ | closing _ | tokens _ => 0

end Lexeme

namespace Placed

/-- The number of groups in braces that are open. -/
def braces (opened : List Open) : Nat := opened.countP (·.delimiter = .brace)

theorem braces_cons (group : Open) (opened : List Open) : braces (group :: opened) =
    braces opened + if group.delimiter = .brace then 1 else 0 := by
  simp [braces, List.countP_cons]

/-- A lexeme of balanced code closes a brace only if one is open. -/
theorem exists_of_nestWith?_cons {start stop : Nat} {lexeme : Lexeme}
    {rest : List (Placed Lexeme)} {opened : List Open} {done : List (Placed Token)}
    (h : (nestWith? (⟨start, stop, lexeme⟩ :: rest) opened done).isSome) :
    ∃ depth opened' done', (nestWith? rest opened' done').isSome ∧
      braces opened = depth + lexeme.bracesClosed ∧
      braces opened' = depth + lexeme.bracesOpened := by
  match lexeme, opened with
  | .tokens code, opened => exact ⟨braces opened, opened, _, h, rfl, rfl⟩
  | .opening d, opened =>
    refine ⟨braces opened, ⟨start, d, done⟩ :: opened, [], h, rfl, ?_⟩
    rw [braces_cons]
    cases d <;> rfl
  | .closing d, group :: opened =>
    rw [nestWith?] at h
    split at h
    · next hd =>
      refine ⟨braces opened, opened, _, h, ?_, rfl⟩
      rw [braces_cons, hd]
      cases d <;> rfl
    · cases h
  | .closing d, [] =>
    rw [nestWith?] at h
    cases h

end Placed

namespace Braced

open Text

section

variable {before r s : List Char}

/-! ## Blank space and delimiters -/

/-- The codes of blank characters, of the marks for a direction of writing and of the mark that may
stand in front of a text. -/
def gapCodes : List Nat :=
  List.range' 9 5 ++ [0x20, 0x85, 0xa0, 0x1680] ++ List.range' 0x2000 11 ++
    [0x200e, 0x200f, 0x2028, 0x2029, 0x202f, 0x205f, 0x3000, 0xfeff]

theorem isWordChar_of_mem_gapCodes {c : Char} (h : c.toNat ∈ gapCodes) : isWordChar c = false := by
  have hnone : ∀ n ∈ gapCodes, Ranges.containsCode alphanumericRanges n = false := by
    decide +kernel
  have hlow : c ≠ '_' := by
    rintro rfl
    exact absurd h (by decide)
  rw [isWordChar, isAlphanumeric, Ranges.contains, hnone _ h, Bool.false_or]
  exact beq_false_of_ne hlow

theorem isWordChar_of_isGap {c : Char} (h : Comment.isGap c = true) : isWordChar c = false := by
  apply isWordChar_of_mem_gapCodes
  simp only [Comment.isGap, isBlank, Bool.or_eq_true, Bool.and_eq_true, decide_eq_true_eq,
    beq_iff_eq] at h
  simp only [gapCodes, List.mem_append, List.mem_range'_1, List.mem_cons, List.not_mem_nil,
    or_false]
  rcases h with (h | rfl) | rfl
  · omega
  · decide
  · decide

theorem reads_gap {w tail : List Char} (hw : ∀ c ∈ w, Comment.isGap c = true) :
    Reads before w tail := by
  refine reads_plain fun c hc hmem => ?_
  have hnot : ∀ c ∈ ['"', '\'', 'r', '{', '}'], Comment.isGap c = false :=
    forall_mem_of_all (by decide)
  exact absurd (hw c hc) (Bool.eq_false_iff.1 (hnot c hmem))

/-- Blank space is read as it stands, and a token may begin after it. -/
theorem exists_gap {before s : List Char} (hfresh : Fresh before s) :
    ∃ w, s = w ++ s.dropWhile Comment.isGap ∧ (∀ tail, Reads before w tail) ∧
      Fresh (w.reverse ++ before) (s.dropWhile Comment.isGap) := by
  have hgap : ∀ c ∈ s.takeWhile Comment.isGap, Comment.isGap c = true :=
    fun c hc => List.all_eq_true.1 List.all_takeWhile c hc
  refine ⟨s.takeWhile Comment.isGap, List.takeWhile_append_dropWhile.symm,
    fun tail => reads_gap hgap, ?_⟩
  rcases List.eq_nil_or_concat (s.takeWhile Comment.isGap) with hw | ⟨w, c, hw⟩
  · have hs : s.dropWhile Comment.isGap = s := by
      have htext := List.takeWhile_append_dropWhile (p := Comment.isGap) (l := s)
      rwa [hw, List.nil_append] at htext
    rwa [hw, hs]
  · rw [List.concat_eq_append] at hw
    rw [hw]
    exact fresh_after (isWordChar_of_isGap (hgap c (by simp [hw]))) w before _

/-- An opening delimiter opens a brace if it is one. -/
theorem readFrom_opening (depth : Nat) (before s : List Char) (d : Delimiter) :
    readFrom depth before (d.opening :: s) = prepend [d.opening]
      (readFrom (depth + (Lexeme.opening d).bracesOpened) (d.opening :: before) s) := by
  cases d with
  | brace => exact readFrom_char rfl (by decide)
  | paren => exact readFrom_plain depth before s (by decide)
  | bracket => exact readFrom_plain depth before s (by decide)

/-- A closing delimiter closes one. -/
theorem readFrom_closing (depth : Nat) (before s : List Char) (d : Delimiter) :
    readFrom (depth + (Lexeme.closing d).bracesClosed) before (d.closing :: s) =
      prepend [d.closing] (readFrom depth (d.closing :: before) s) := by
  cases d with
  | brace => exact readFrom_close_succ rfl
  | paren => exact readFrom_plain depth before s (by decide)
  | bracket => exact readFrom_plain depth before s (by decide)

theorem fresh_delimiter (d : Delimiter) (before s : List Char) :
    Fresh (d.opening :: before) s ∧ Fresh (d.closing :: before) s := by
  cases d <;>
    exact ⟨fun _ => isWordChar_eq_false (by decide), fun _ => isWordChar_eq_false (by decide)⟩

end

/-! ## Tokens one after the other -/

open Lexeme Placed

/-- A lexeme is read as it stands; the braces that it opens and closes are counted. -/
theorem exists_of_next? {before f r : List Char} {lexeme : Lexeme}
    (h : next? f = some (lexeme, r)) (hcomment : Comment.starts f = false)
    (hread : isMisread f = false) (hfresh : Fresh before f) (rest : List Char) :
    ∃ u, f = u ++ r ∧ Fresh (u.reverse ++ before) r ∧ ∀ depth,
      readFrom (depth + lexeme.bracesClosed) before (f ++ '}' :: rest) =
        prepend u (readFrom (depth + lexeme.bracesOpened) (u.reverse ++ before)
          (r ++ '}' :: rest)) := by
  have hnext := h
  rw [next?, Comment.documentation?_eq_none hcomment] at h
  dsimp only at h
  split at h
  · next found hfound =>
    obtain rfl := Option.some.inj h
    obtain ⟨d, ⟨rfl, rfl⟩ | ⟨rfl, rfl⟩⟩ := exists_of_delimiter? hfound
    · exact ⟨[d.opening], rfl, (fresh_delimiter d before r).1,
        fun depth => readFrom_opening depth before _ d⟩
    · exact ⟨[d.closing], rfl, (fresh_delimiter d before r).2,
        fun depth => readFrom_closing depth before _ d⟩
  · obtain ⟨⟨t, r'⟩, hleaf, hpair⟩ := Option.map_eq_some_iff.1 h
    obtain ⟨rfl, rfl⟩ := Prod.mk.inj hpair
    have hpasses : Passes before f r' rest :=
      passes_leaf hleaf hfresh fun u hu => misreads_of_next? hnext hu hread
    obtain ⟨u, rfl, hreads, hfresh'⟩ := hpasses
    refine ⟨u, rfl, hfresh', fun depth => ?_⟩
    rw [List.append_assoc]
    exact hreads depth

/-- The tokens of a text are read up to the brace behind them, where some groups are open. -/
theorem readFrom_of_from? {start : Nat} {s : List Char} {lexemes : List (Placed Lexeme)}
    (h : from? start s = some lexemes) {opened : List Open} {done : List (Placed Token)}
    (hnest : (nestWith? lexemes opened done).isSome)
    (hcomment : ∀ f ∈ fronts s, Comment.starts f = false)
    (hread : ∀ f ∈ fronts s, isMisread f = false) {before : List Char} (hfresh : Fresh before s)
    (rest : List Char) : readFrom (braces opened) before (s ++ '}' :: rest) = .ok (s, rest) := by
  fun_induction from? start s generalizing lexemes opened done before with
  | case1 start s s' =>
    rename_i hs'
    have hs' : Comment.skip s = [] := hs'
    obtain rfl := Option.some.inj h
    obtain ⟨w, hs, hreads, -⟩ := exists_gap hfresh
    rw [← skip_of_fronts hcomment, hs', List.append_nil] at hs
    subst hs
    -- All groups are closed at the end, so that the brace is the one that closes all others.
    match opened with
    | group :: opened => cases hnest
    | [] =>
      have hclose : readFrom 0 (s.reverse ++ before) ('}' :: rest) = .ok ([], rest) :=
        readFrom_close rfl
      rw [hreads]
      show prepend s (readFrom 0 _ _) = _
      rw [hclose]
      exact congrArg Except.ok (by rw [List.append_nil])
  | case2 => cases h
  | case3 start s s' hs' lexeme r hnext hlt =>
    rename_i ih
    have hskip := skip_of_fronts hcomment
    obtain ⟨lexemes, hlexemes, rfl⟩ := Option.map_eq_some_iff.1 h
    obtain ⟨w, hs, hreads, hfresh⟩ := exists_gap hfresh
    rw [← hskip] at hs hfresh
    have hmem := mem_fronts hskip.symm hs'
    have hsubset := fronts_subset hskip.symm hs' hnext hlt
    obtain ⟨u, hu, hfresh, hlexeme⟩ :=
      exists_of_next? hnext (hcomment _ hmem) (hread _ hmem) hfresh rest
    obtain ⟨depth, opened', done', hnest, hbefore, hafter⟩ := exists_of_nestWith?_cons hnest
    have hrest := ih hlexemes hnest (fun f hf => hcomment f (hsubset hf))
      (fun f hf => hread f (hsubset hf)) hfresh
    calc readFrom (braces opened) before (s ++ '}' :: rest)
      _ = readFrom (braces opened) before (w ++ (Comment.skip s ++ '}' :: rest)) := by
        rw [← List.append_assoc, ← hs]
      _ = prepend w (prepend u (readFrom (braces opened') (u.reverse ++ (w.reverse ++ before))
            (r ++ '}' :: rest))) := by rw [hreads, hbefore, hlexeme, hafter]
      _ = .ok (w ++ (u ++ r), rest) := by
        rw [hrest]
        rfl
      _ = .ok (s, rest) := by rw [← hu, ← hs]
  | case4 => cases h

/-! ## Whole texts -/

/-- **Text in braces ends where its tokens say.** A text that splits into tokens, without comments
and without a token that is misread, is read up to the brace behind it, whatever follows: a brace
counts if and only if it is a delimiter of the code. -/
theorem closed_of_tokens {s : List Char} (hcode : (Code.ofChars? s).isSome)
    (hcomment : ∀ f ∈ allFronts s, Comment.starts f = false)
    (hread : ∀ f ∈ allFronts s, isMisread f = false) : Closed s := by
  intro rest
  obtain ⟨lexemes, hlexemes, hnest⟩ : ∃ lexemes, all? s = some lexemes ∧
      (nestWith? lexemes [] []).isSome := by
    rw [Code.ofChars?, Option.isSome_map, Code.locate?] at hcode
    cases hlexemes : all? s with
    | none =>
      rw [hlexemes] at hcode
      cases hcode
    | some lexemes =>
      rw [hlexemes] at hcode
      exact ⟨lexemes, rfl, hcode⟩
  rw [all?.eq_def] at hlexemes
  split at hlexemes
  · next t =>
    have hmark : isWordChar '\ufeff' = false := isWordChar_of_mem_gapCodes (by decide)
    have hfresh : Fresh ['\ufeff'] t := fresh_after hmark [] [] t
    have hrest : readFrom 0 ['\ufeff'] (t ++ '}' :: rest) = .ok (t, rest) :=
      readFrom_of_from? hlexemes hnest hcomment hread hfresh rest
    rw [read, List.cons_append, readFrom_plain 0 [] _ (by decide), hrest]
    rfl
  · next hmark =>
    have hfronts : allFronts s = fronts s := by
      rw [allFronts.eq_def]
      split
      · exact absurd rfl (hmark _)
      · rfl
    rw [hfronts] at hcomment hread
    exact readFrom_of_from? hlexemes hnest hcomment hread (fun _ => rfl) rest

/-- A label, and braces in a byte, in a string after a word and in a raw string. -/
theorem closed_of_tokens_sample :
    (Code.ofChars? "'a: \x7b b'\x7d' bar\"\x7b\" r#\"\x7d\"# \x7d".toList).isSome ∧
      (∀ f ∈ allFronts "'a: \x7b b'\x7d' bar\"\x7b\" r#\"\x7d\"# \x7d".toList,
        Comment.starts f = false) ∧
      (∀ f ∈ allFronts "'a: \x7b b'\x7d' bar\"\x7b\" r#\"\x7d\"# \x7d".toList,
        isMisread f = false) ∧
      Closed "'a: \x7b b'\x7d' bar\"\x7b\" r#\"\x7d\"# \x7d".toList := by
  generalize hs : "'a: \x7b b'\x7d' bar\"\x7b\" r#\"\x7d\"# \x7d".toList = s
  have hcode : (Code.ofChars? s).isSome := by
    subst hs
    decide +kernel
  have hcomment : ∀ f ∈ allFronts s, Comment.starts f = false := by
    subst hs
    decide +kernel
  have hread : ∀ f ∈ allFronts s, isMisread f = false := by
    subst hs
    decide +kernel
  exact ⟨hcode, hcomment, hread, closed_of_tokens hcode hcomment hread⟩

/-- Code without comments, if the reader of text in braces does not find the brace behind it. -/
def Overlooked (s : List Char) : Prop :=
  (Code.ofChars? s).isSome ∧ (∀ f ∈ allFronts s, Comment.starts f = false) ∧ ¬ Closed s

theorem overlooked_of_read {s : List Char} (hcode : (Code.ofChars? s).isSome)
    (hcomment : ∀ f ∈ allFronts s, Comment.starts f = false)
    (hne : (read (s ++ ['}'])).toOption ≠ some (s, [])) : Overlooked s :=
  ⟨hcode, hcomment, fun hclosed => hne (by rw [hclosed []]; rfl)⟩

/-- Three texts with a token that is misread: a raw string with the letter `c`, a raw word that ends
in `r` before a string, and the literal of a single quote. They split into tokens, but are not read
up to the brace behind them. -/
theorem not_closed_of_misread :
    Overlooked "cr\"\\\"".toList ∧ Overlooked "r#r\"\\\"\x7d\"".toList ∧
      Overlooked "'''\x7b'a: loop \x7b\x7d\x7d".toList := by
  refine ⟨?_, ?_, ?_⟩
  all_goals exact overlooked_of_read (by decide +kernel) (by decide +kernel) (by decide +kernel)

end Braced

end TextTemplate
