import TextTemplate.Proofs.Code.Ending
import TextTemplate.Proofs.Code.Quoting
import TextTemplate.Proofs.Code.Verbatim
import TextTemplate.Proofs.Program.Written
import TextTemplate.Proofs.Template.Runs

/-!
# Code that is read back from its text

Code is written with spaces between its tokens, so that most of it can be read back. This is shown
of a piece of code whatever stands behind it, and therefore holds of code that is put together.

- `Code.lexemes`: code without its groups; `Lexeme.nestWith?_lexemes` makes the groups again.
- `Lexeme.next?_quote`: a text that is written as a literal is one token.
- `Lexeme.next?_word`, `Lexeme.next?_mark`: words and marks.
- `Code.Legible`: code that is read back, whatever stands behind it.
- `Legible.append`, `Legible.group`: code that is put together, and code in delimiters.
- `Legible.ofChars?_chars`: the code of the text of a piece of code.
-/

namespace TextTemplate

open Text

/-! ## Lexemes of code -/

mutual

/-- The lexemes of a token tree. -/
def Token.lexemes : Token → List Lexeme
  | .group d body => .opening d :: (Token.lexemesAll body ++ [.closing d])
  | t => [.tokens [t]]

/-- The lexemes of token trees. -/
def Token.lexemesAll : List Token → List Lexeme
  | [] => []
  | t :: rest => t.lexemes ++ Token.lexemesAll rest

end

/-- The lexemes of a piece of code. -/
def Code.lexemes (code : Code) : List Lexeme := Token.lexemesAll code

namespace Lexeme

mutual

theorem nestWith?_lexemes_token (t : Token) (rest : List Lexeme) (opened : List (Delimiter × Code))
    (done : Code) :
    nestWith? (t.lexemes ++ rest) opened done = nestWith? rest opened (t :: done) := by
  match t with
  | .word _ | .mark _ _ | .literal _ => rfl
  | .group d body =>
    -- What is inside is gathered from nothing, until its own delimiter closes it.
    rw [Token.lexemes, List.cons_append, nestWith?, List.append_assoc,
      nestWith?_lexemes body, List.append_nil, List.singleton_append, nestWith?, if_pos rfl,
      List.reverse_reverse]

/-- The lexemes of code make up the code. -/
theorem nestWith?_lexemes (code : Code) (rest : List Lexeme) (opened : List (Delimiter × Code))
    (done : Code) :
    nestWith? (Token.lexemesAll code ++ rest) opened done =
      nestWith? rest opened (code.reverse ++ done) := by
  match code with
  | [] => rfl
  | t :: code =>
    rw [Token.lexemesAll, List.append_assoc, nestWith?_lexemes_token, nestWith?_lexemes code,
      List.reverse_cons, List.append_assoc, List.singleton_append]

end

/-! ## Texts -/

theorem dropSuffix_eq_self {r : List Char} (h : Word.starts r = false) : Word.dropSuffix r = r := by
  cases r with
  | nil => rfl
  | cons c r =>
    have hc : isIdentifierStart c = false := h
    rw [Word.dropSuffix, Word.split?, hc]
    rfl

theorem toList_quote (t : String) : (quote t).toList = '"' :: (encode t.toList ++ ['"']) := by
  rw [quote, String.toList_ofList, List.cons_append]

/-- **A text is written as one literal**, which ends where it is meant to, whatever follows. -/
theorem next?_quote (t : String) {r : List Char} (h : Word.starts r = false) :
    next? ((quote t).toList ++ r) = some (.tokens [.ofText t], r) := by
  have hchars : (quote t).toList ++ r = '"' :: (encode t.toList ++ '"' :: r) := by
    rw [toList_quote, List.cons_append, List.append_assoc, List.singleton_append]
  have hstring : StringLiteral.string? ((quote t).toList ++ r) = some (t.toList, r) := by
    rw [hchars]
    exact StringLiteral.body?_encode t.toList r
  -- A word right behind the quote would be a suffix of the literal.
  have hdrop : dropLiteral? ((quote t).toList ++ r) = some r := by
    rw [dropLiteral?, hstring]
    exact congrArg some (dropSuffix_eq_self h)
  have hliteral : literal? ((quote t).toList ++ r) = some (.ofText t, r) := by
    rw [literal?, hdrop, Option.map_some, List.length_append, Nat.add_sub_cancel, List.take_left,
      String.ofList_toList]
    rfl
  have hdoc : Comment.documentation? ((quote t).toList ++ r) = none := by
    rw [hchars]
    rfl
  have hdelimiter : delimiter? ((quote t).toList ++ r) = none := by
    rw [hchars]
    rfl
  rw [next?, hdoc, hdelimiter]
  simp only [leaf?, hliteral]
  rfl

/-! ## Words and marks -/

/-- What may stand behind a token without becoming part of it: nothing, a space or a closing
delimiter. -/
def Bounds (r : List Char) : Prop := ∀ c ∈ r.head?, c ∈ [' ', ')', ']', '}']

theorem bounds_nil : Bounds [] := nofun

theorem bounds_cons {c : Char} (h : c ∈ [' ', ')', ']', '}']) (r : List Char) :
    Bounds (c :: r) := by
  rintro d ⟨rfl⟩
  exact h

theorem starts_of_bounds {r : List Char} (h : Bounds r) : Word.starts r = false := by
  cases r with
  | nil => rfl
  | cons c r =>
    have hstart : ∀ c ∈ [' ', ')', ']', '}'], isIdentifierStart c = false :=
      forall_mem_of_all (by decide)
    exact hstart c (h c rfl)

/-- The characters that open and close groups. -/
def delimiters : List Char := "()[]\x7b\x7d".toList

/-- No word begins with a mark or a delimiter. -/
theorem not_mem_of_isIdentifierStart {c : Char} (h : isIdentifierStart c = true) :
    c ∉ signs ++ delimiters := by
  have hnone : ∀ c ∈ signs ++ delimiters, isIdentifierStart c = false :=
    forall_mem_of_all (by decide +kernel)
  intro hc
  rw [hnone c hc] at h
  cases h

/-- The numbers of white space and of directional marks. -/
def gaps : List Nat :=
  List.range' 0x9 5 ++ [0x20, 0x85, 0xa0, 0x1680] ++ List.range' 0x2000 0x10 ++
    [0x2028, 0x2029, 0x202f, 0x205f, 0x3000]

theorem mem_gaps_of_isGap {c : Char} (h : Comment.isGap c = true) : c.toNat ∈ gaps := by
  simp only [Comment.isGap, isBlank, Bool.or_eq_true, Bool.and_eq_true, decide_eq_true_eq,
    beq_iff_eq] at h
  simp only [gaps, List.mem_append, List.mem_range'_1, List.mem_cons, List.not_mem_nil, or_false]
  rcases h with (h | rfl) | rfl
  · omega
  · decide
  · decide

/-- No word begins with white space. -/
theorem isGap_of_isIdentifierStart {c : Char} (h : isIdentifierStart c = true) :
    Comment.isGap c = false := by
  have hgaps : ∀ n ∈ gaps, n ≠ '_'.toNat ∧ Ranges.containsCode identifierStartRanges n = false := by
    decide +kernel
  cases hgap : Comment.isGap c with
  | false => rfl
  | true =>
    obtain ⟨hlow, hcode⟩ := hgaps _ (mem_gaps_of_isGap hgap)
    rw [isIdentifierStart, Ranges.contains, hcode, Bool.or_false, beq_iff_eq] at h
    exact absurd (congrArg Char.toNat h) hlow

section

variable {c : Char} {w r : List Char}

theorem isIdentifierContinue_of_bounds (hr : Bounds r) :
    ∀ d ∈ r.head?, isIdentifierContinue d = false := by
  have hcontinue : ∀ d ∈ [' ', ')', ']', '}'], isIdentifierContinue d = false :=
    forall_mem_of_all (by decide)
  exact fun d hd => hcontinue d (hr d hd)

/-- A word goes on up to what stands behind it. -/
theorem splitAny?_word (hc : isIdentifierStart c = true)
    (hw : ∀ d ∈ w, isIdentifierContinue d = true) (hr : Bounds r) :
    Word.splitAny? (c :: (w ++ r)) = some (c :: w, r) := by
  have htake : r.takeWhile isIdentifierContinue = [] ∧ r.dropWhile isIdentifierContinue = r := by
    cases r with
    | nil => exact ⟨rfl, rfl⟩
    | cons d r =>
      have hd := isIdentifierContinue_of_bounds hr d rfl
      rw [List.takeWhile_cons, List.dropWhile_cons, hd]
      exact ⟨rfl, rfl⟩
  have hsplit : Word.split? (c :: (w ++ r)) = some (c :: w, r) := by
    rw [Word.split?, if_pos hc, List.takeWhile_append_of_pos hw, List.dropWhile_append_of_pos hw,
      htake.1, htake.2, List.append_nil]
  rw [Word.splitAny?.eq_def]
  split
  · next t heq =>
    -- A sign does not belong to a word, and may not stand behind one.
    have hsign : (w ++ r).head? = some '#' := by rw [(List.cons.inj heq).2]; rfl
    cases w with
    | nil => exact absurd (hr '#' hsign) (by decide)
    | cons d w =>
      obtain rfl : d = '#' := Option.some.inj hsign
      exact absurd (hw '#' List.mem_cons_self) (by decide)
  · exact hsplit

/-- A word and what stands behind it begin with neither a quote nor a sign. -/
theorem head?_word (hw : ∀ d ∈ w, Braced.Quiet d) (hr : Bounds r) :
    ∀ d ∈ (w ++ r).head?, d ∉ ['"', '\'', '#'] := by
  have hbounds : ∀ d ∈ [' ', ')', ']', '}'], d ∉ ['"', '\'', '#'] :=
    forall_mem_of_all (by decide)
  cases w with
  | nil => exact fun d hd => hbounds d (hr d hd)
  | cons e w =>
    rintro d ⟨rfl⟩ hd
    have hquiet := hw e List.mem_cons_self
    simp only [Braced.Quiet, List.mem_cons, not_or] at hquiet
    simp [hquiet] at hd

/-- No literal with a letter in front begins with a word. -/
theorem startsWithAny_word (hw : ∀ d ∈ w, Braced.Quiet d) (hr : Bounds r) :
    startsWithAny literalOpenings (w ++ r) = false := by
  have hloud : ∀ o ∈ literalOpenings, o.any (fun d => decide (¬ Braced.Quiet d)) = true := by
    decide
  have hall : ∀ o ∈ literalOpenings, o.all (fun d => decide (d ∉ [' ', ')', ']', '}'])) = true := by
    decide
  refine List.any_eq_false.2 fun o ho hprefix => ?_
  obtain ⟨d, hd, hquiet⟩ := List.any_eq_true.1 (hloud o ho)
  have hquiet := of_decide_eq_true hquiet
  have hbounds := forall_mem_of_all (hall o ho)
  have hprefix := List.isPrefixOf_iff_prefix.1 hprefix
  rcases List.prefix_or_prefix_of_prefix hprefix (List.prefix_append w r) with h | ⟨t, rfl⟩
  · exact hquiet (hw d (h.subset hd))
  · -- The word ends within what the literal begins with, where nothing of this may stand.
    obtain ⟨u, hu⟩ := (List.prefix_append_right_inj w).1 hprefix
    cases t with
    | nil => exact hquiet (hw d (by rwa [List.append_nil] at hd))
    | cons e t =>
      have he : e ∈ w ++ e :: t := List.mem_append_right w List.mem_cons_self
      exact hbounds e he (hr e (by rw [← hu]; rfl))

theorem raw?_eq_none {s : List Char} (d : StringLiteral.Dialect)
    (h : ∀ e ∈ s.head?, e ∉ ['"', '\'', '#']) : StringLiteral.raw? d s = none := by
  have hdrop : s.dropWhile (· == '#') = s := by
    cases s with
    | nil => rfl
    | cons e s =>
      have he : e ≠ '#' := fun he => h e rfl (by rw [he]; decide)
      rw [List.dropWhile_cons, beq_false_of_ne he]
      rfl
  rw [StringLiteral.raw?, hdrop]
  split
  · exact absurd (by decide) (h '"' rfl)
  · rfl

/-- A word does not go on with a string after a letter. -/
theorem quoted?_word (d : StringLiteral.Dialect) (hw : ∀ e ∈ w, Braced.Quiet e) (hr : Bounds r) :
    StringLiteral.quoted? d (w ++ r) = none := by
  have hhead := head?_word hw hr
  rw [StringLiteral.quoted?.eq_def]
  split
  · next heq =>
    rw [heq] at hhead
    exact absurd (by decide) (hhead '"' rfl)
  · next s heq =>
    cases w with
    | nil =>
      rw [List.nil_append] at heq
      exact absurd (hr 'r' (by rw [heq]; rfl)) (by decide)
    | cons e w =>
      obtain ⟨-, rfl⟩ := List.cons.inj heq
      exact raw?_eq_none d (head?_word (List.forall_mem_cons.1 hw).2 hr)
  · rfl

/-- No literal begins with a word. -/
theorem dropLiteral?_word (hc : isIdentifierStart c = true) (hw : ∀ d ∈ w, Braced.Quiet d)
    (hr : Bounds r) : dropLiteral? (c :: (w ++ r)) = none := by
  have hquiet := Braced.quiet_of_isIdentifierStart hc
  have hall : ∀ d ∈ c :: w, Braced.Quiet d := List.forall_mem_cons.2 ⟨hquiet, hw⟩
  have hstring : StringLiteral.string? (c :: (w ++ r)) = none := by
    by_cases hb : c = 'b'
    · subst hb
      exact quoted?_word .bytes hw hr
    by_cases hforeign : c = 'c'
    · subst hforeign
      exact quoted?_word .foreign hw hr
    rw [StringLiteral.string?, StringLiteral.dialect.eq_3]
    · exact quoted?_word .text hall hr
    · exact fun _ heq => hb (List.cons.inj heq).1
    · exact fun _ heq => hforeign (List.cons.inj heq).1
  have hcharacter : StringLiteral.character? (c :: (w ++ r)) = none := by
    rw [StringLiteral.character?.eq_def]
    split
    · next heq =>
      obtain rfl : c = '\'' := (List.cons.inj heq).1
      exact absurd (by decide) hquiet
    · next heq =>
      have hhead := head?_word hw hr
      rw [(List.cons.inj heq).2] at hhead
      exact absurd (by decide) (hhead '\'' rfl)
    · rfl
  have hdecimal : Number.startsDecimal (c :: (w ++ r)) = false :=
    Ident.isDecimal_of_isIdentifierStart hc
  have hbase : Number.base (c :: (w ++ r)) = (10, c :: (w ++ r)) := by
    have hzero : c ≠ '0' := fun h => by subst h; cases hdecimal
    refine Number.base.eq_4 _ ?_ ?_ ?_ <;> exact fun _ heq => hzero (List.cons.inj heq).1
  rw [dropLiteral?, hstring, hcharacter, dropFloat?_eq_none hdecimal,
    dropInt?_eq_none hbase hdecimal]
  rfl

theorem documentation?_eq_none (h : c ≠ '/') (s : List Char) :
    Comment.documentation? (c :: s) = none := by
  rw [Comment.documentation?.eq_def]
  dsimp only
  split <;> first | rfl | (next heq => exact absurd (List.cons.inj heq).1 h)

/-- The place of an error begins like a group. -/
theorem isPrefixOf_errorMark (h : c ≠ '(') (s : List Char) :
    errorMark.isPrefixOf (c :: s) = false := by
  have hmark : errorMark = '(' :: "/*ERROR*/)".toList := by decide
  rw [hmark, List.isPrefixOf_cons_cons, beq_false_of_ne h.symm, Bool.false_and]

theorem delimiter?_eq_none (h : c ∉ delimiters) (s : List Char) : delimiter? (c :: s) = none := by
  have hne (d : Char) (hd : d ∈ delimiters) : c ≠ d := fun e => h (e ▸ hd)
  have hopening : Delimiter.ofOpening? c = none := by
    simp [Delimiter.ofOpening?, hne '(' (by decide), hne '[' (by decide), hne '{' (by decide)]
  have hclosing : Delimiter.ofClosing? c = none := by
    simp [Delimiter.ofClosing?, hne ')' (by decide), hne ']' (by decide), hne '}' (by decide)]
  rw [delimiter?, isPrefixOf_errorMark (hne '(' (by decide)), hopening, hclosing]
  rfl

theorem mark?_eq_none (h : c ∉ signs) (s : List Char) : mark? (c :: s) = none := by
  have hsign : sign? (c :: s) = none := by
    rw [sign?.eq_def]
    split
    · rfl
    · rfl
    · next heq =>
      obtain ⟨rfl, rfl⟩ := List.cons.inj heq
      exact if_neg h
    · rfl
  rw [mark?, hsign]

/-- A plain word is read as a word. -/
theorem next?_word {name : String} (h : Word.isPlain name.toList = true) (hr : Bounds r) :
    next? (name.toList ++ r) = some (.tokens [.word name], r) := by
  obtain ⟨c, w, hname⟩ : ∃ c w, name.toList = c :: w := by
    cases hname : name.toList with
    | nil => rw [hname] at h; cases h
    | cons c w => exact ⟨c, w, rfl⟩
  rw [hname, Word.isPlain, Bool.and_eq_true, List.all_eq_true] at h
  obtain ⟨hc, hw⟩ := h
  have hquiet : ∀ d ∈ c :: w, Braced.Quiet d :=
    List.forall_mem_cons.2 ⟨Braced.quiet_of_isIdentifierStart hc, fun d hd =>
      Braced.quiet_of_isIdentifierContinue (hw d hd)⟩
  obtain ⟨hsigns, hdelimiters⟩ := not_or.1 (mt List.mem_append.2 (not_mem_of_isIdentifierStart hc))
  have hslash : c ≠ '/' := fun h => hsigns (by rw [h]; decide)
  have hdoc := documentation?_eq_none hslash (w ++ r)
  have hdelimiter := delimiter?_eq_none hdelimiters (w ++ r)
  have hmark := mark?_eq_none hsigns (w ++ r)
  have hword : word? (c :: (w ++ r)) = some (.word name, r) := by
    rw [word?, ← List.cons_append, startsWithAny_word hquiet hr, if_neg Bool.false_ne_true,
      List.cons_append, splitAny?_word hc hw hr, Option.map_some, ← hname]
    exact congrArg (fun s => some (Token.word s, r)) String.ofList_toList
  rw [hname, List.cons_append, next?, hdoc, hdelimiter]
  simp only [leaf?, literal?, dropLiteral?_word hc (List.forall_mem_cons.1 hquiet).2 hr,
    Option.map_none, hmark, hword]
  rfl

/-- A mark touches what follows it if that is another mark. -/
theorem next?_mark (h : c ∈ ['=', ';', '!', ',', '.', ':']) (r : List Char) :
    next? (c :: r) =
      some (.tokens [.mark c (if (sign? r).isSome then .joint else .alone)], r) := by
  simp only [List.mem_cons, List.not_mem_nil, or_false] at h
  rcases h with rfl | rfl | rfl | rfl | rfl | rfl <;> rfl

theorem sign?_of_bounds (h : Bounds r) : sign? r = none := by
  cases r with
  | nil => rfl
  | cons d r =>
    have hd := h d rfl
    simp only [List.mem_cons, List.not_mem_nil, or_false] at hd
    rcases hd with rfl | rfl | rfl | rfl <;> rfl

/-- A delimiter opens a group, unless the place of an error begins there. -/
theorem next?_opening (d : Delimiter) {s : List Char} (h : ∀ c ∈ s.head?, c ≠ '/') :
    next? (d.opening :: s) = some (.opening d, s) := by
  have herror : errorMark.isPrefixOf (d.opening :: s) = false := by
    have hmark : errorMark = '(' :: '/' :: "*ERROR*/)".toList := by decide
    cases d with
    | brace => exact isPrefixOf_errorMark (by decide) s
    | bracket => exact isPrefixOf_errorMark (by decide) s
    | paren =>
      cases s with
      | nil => rfl
      | cons c s =>
        rw [hmark, List.isPrefixOf_cons_cons, List.isPrefixOf_cons_cons,
          beq_false_of_ne (h c rfl).symm, Bool.false_and, Bool.and_false]
  rw [next?, documentation?_eq_none (by cases d <;> decide)]
  simp [delimiter?, herror]

theorem next?_closing (d : Delimiter) (s : List Char) :
    next? (d.closing :: s) = some (.closing d, s) := by
  have herror := isPrefixOf_errorMark (c := d.closing) (by cases d <;> decide) s
  have hopening : Delimiter.ofOpening? d.closing = none := by cases d <;> rfl
  rw [next?, documentation?_eq_none (by cases d <;> decide)]
  simp [delimiter?, herror, hopening]

/-- A lexeme at the front of a text is the first one. -/
theorem split?_cons {lexeme : Lexeme} (hslash : c ≠ '/') (hgap : Comment.isGap c = false)
    (hnext : next? (c :: w) = some (lexeme, r)) (hlength : r.length ≤ w.length) :
    split? (c :: w) = (split? r).map (lexeme :: ·) := by
  have hskip : Comment.skip (c :: w) = c :: w := by
    rw [Comment.skip_char (by simp [Comment.startsLine_eq, List.isPrefixOf, hslash.symm])
      (by simp [Comment.startsBlock_eq, List.isPrefixOf, hslash.symm]), hgap]
    rfl
  rw [← hskip] at hnext
  rw [split?_of_next? (by simp [hskip]) hnext, hskip]
  exact if_pos (Nat.lt_succ_of_le hlength)

end

end Lexeme

/-! ## Code that is read back -/

namespace Code

open Lexeme

theorem chars_cons (t : Token) {code : Code} (h : code ≠ []) :
    chars (t :: code) = t.chars ++ (if t.sticks then [] else [' ']) ++ chars code := by
  obtain ⟨u, rest, rfl⟩ := List.exists_cons_of_ne_nil h
  rfl

/-- Code after code is written behind a space, unless the last mark touches it. -/
theorem chars_append {a b : Code} (ha : a ≠ []) (hb : b ≠ [])
    (hlast : ∀ t ∈ a.getLast?, t.sticks = false) : chars (a ++ b) = chars a ++ ' ' :: chars b := by
  induction a with
  | nil => exact absurd rfl ha
  | cons t a ih =>
    cases a with
    | nil =>
      rw [List.singleton_append, chars_cons t hb, hlast t rfl]
      simp
    | cons u a =>
      have hrest := ih (List.cons_ne_nil u a) (by rwa [List.getLast?_cons_cons] at hlast)
      rw [List.cons_append, chars_cons t (List.append_ne_nil_of_right_ne_nil (u :: a) hb), hrest,
        chars_cons t (List.cons_ne_nil u a), List.append_assoc _ (chars (u :: a))]

/-- Code that is read back from its text, whatever stands behind it. -/
structure Legible (code : Code) : Prop where
  /-- The last mark does not touch what comes after it. -/
  settled : ∀ t ∈ code.getLast?, t.sticks = false
  /-- The text begins neither like a comment nor with a byte order mark. -/
  front : ∀ c ∈ code.chars.head?, c ∉ ['/', '\ufeff']
  /-- The lexemes of the text are those of the code. -/
  reads : ∀ r, Bounds r → split? (code.chars ++ r) = (split? r).map (code.lexemes ++ ·)

theorem lexemes_append (a b : Code) : (a ++ b).lexemes = a.lexemes ++ b.lexemes := by
  induction a with
  | nil => rfl
  | cons t a ih =>
    show t.lexemes ++ lexemes (a ++ b) = t.lexemes ++ lexemes a ++ lexemes b
    rw [ih, List.append_assoc]

namespace Legible

variable {a b : Code}

theorem nil : Legible [] where
  settled := nofun
  front := nofun
  reads r _ := by
    show split? r = (split? r).map ([] ++ ·)
    simp

/-- Code that is read back may follow such code. -/
theorem append (ha : a.Legible) (hb : b.Legible) : Legible (a ++ b) := by
  by_cases hnil : a = []
  · rwa [hnil, List.nil_append]
  by_cases hnil' : b = []
  · rwa [hnil', List.append_nil]
  have hchars := chars_append hnil hnil' ha.settled
  refine ⟨?_, ?_, fun r hr => ?_⟩
  · have hlast : (a ++ b).getLast? = b.getLast? := by
      rw [List.getLast?_append, List.getLast?_eq_some_getLast hnil']
      rfl
    rw [hlast]
    exact hb.settled
  · rw [hchars]
    have hfront := ha.front
    cases hcs : chars a with
    | nil =>
      rintro c ⟨rfl⟩
      decide
    | cons d cs =>
      rw [hcs] at hfront
      exact hfront
  · -- The space between the two is the bound of the first.
    have hspace : Bounds (' ' :: (chars b ++ r)) := bounds_cons (by decide) _
    rw [hchars, List.append_assoc, List.cons_append, ha.reads _ hspace, split?_blank,
      hb.reads r hr, Option.map_map, lexemes_append]
    simp [Function.comp_def]

theorem cons {t : Token} (ht : Legible [t]) (h : a.Legible) : Legible (t :: a) := ht.append h

/-- What stands between the delimiters of a group. Braces keep a space on their inner sides. -/
theorem exists_inside (d : Delimiter) (h : a.Legible) :
    ∃ inside : List Char, chars [.group d a] = d.opening :: (inside ++ [d.closing]) ∧
      (∀ c ∈ (inside ++ [d.closing]).head?, c ≠ '/') ∧
      ∀ r, split? (inside ++ d.closing :: r) =
        (split? (d.closing :: r)).map (a.lexemes ++ ·) := by
  have hplain (e : Delimiter) : (∀ c ∈ (chars a ++ [e.closing]).head?, c ≠ '/') ∧
      ∀ r, split? (chars a ++ e.closing :: r) =
        (split? (e.closing :: r)).map (a.lexemes ++ ·) := by
    refine ⟨?_, fun r => h.reads _ (bounds_cons (by cases e <;> decide) r)⟩
    have hfront := h.front
    cases hcs : chars a with
    | nil =>
      rintro c ⟨rfl⟩
      cases e <;> decide
    | cons d cs =>
      rw [hcs] at hfront
      rintro c ⟨rfl⟩ rfl
      exact absurd List.mem_cons_self (hfront '/' rfl)
  cases d with
  | paren => exact ⟨chars a, rfl, hplain .paren⟩
  | bracket => exact ⟨chars a, rfl, hplain .bracket⟩
  | brace =>
    cases a with
    | nil =>
      refine ⟨[' '], rfl, ?_, fun r => ?_⟩
      · rintro c ⟨rfl⟩
        decide
      rw [List.singleton_append, split?_blank]
      simp [lexemes, Token.lexemesAll]
    | cons t a =>
      have hchars : chars [.group .brace (t :: a)] =
          '{' :: ' ' :: (chars (t :: a) ++ [' ', '}']) := by
        simp [chars, Token.charsList, Token.chars]
      refine ⟨' ' :: (chars (t :: a) ++ [' ']), ?_, ?_, fun r => ?_⟩
      · rw [hchars]
        simp [Delimiter.opening, Delimiter.closing]
      · rintro c ⟨rfl⟩
        decide
      · have hspace : Bounds (' ' :: Delimiter.brace.closing :: r) := bounds_cons (by decide) _
        rw [List.cons_append, split?_blank, List.append_assoc, List.singleton_append,
          h.reads _ hspace, split?_blank]

/-- Code in delimiters is read back if the code is. -/
theorem group (d : Delimiter) (h : a.Legible) : Legible [.group d a] := by
  obtain ⟨inside, hchars, hslash, hreads⟩ := exists_inside d h
  have hopening (r : List Char) : split? (d.opening :: (inside ++ d.closing :: r)) =
      (split? (inside ++ d.closing :: r)).map (.opening d :: ·) := by
    have hhead : ∀ c ∈ (inside ++ d.closing :: r).head?, c ≠ '/' := by
      cases inside with
      | nil => exact hslash
      | cons c inside => exact hslash
    exact split?_cons (by cases d <;> decide) (by cases d <;> decide) (next?_opening d hhead)
      (Nat.le_refl _)
  have hclosing (r : List Char) : split? (d.closing :: r) = (split? r).map (.closing d :: ·) :=
    split?_cons (by cases d <;> decide) (by cases d <;> decide) (next?_closing d r)
      (Nat.le_refl _)
  refine ⟨?_, ?_, fun r hr => ?_⟩
  · rintro t ⟨rfl⟩
    rfl
  · rw [hchars]
    rintro c ⟨rfl⟩
    cases d <;> decide
  · -- The code inside is read up to the closing delimiter, which is its bound.
    have hlexemes : lexemes [.group d a] = .opening d :: (a.lexemes ++ [.closing d]) := by
      simp [lexemes, Token.lexemesAll, Token.lexemes]
    rw [hchars, List.cons_append, List.append_assoc, List.singleton_append, hopening, hreads,
      hclosing, Option.map_map, Option.map_map, hlexemes]
    simp [Function.comp_def]

/-- A token that is read at the front of a text is read back. -/
theorem of_next? {t : Token} {c : Char} {w : List Char} (hchars : t.chars = c :: w)
    (hc : c ∉ ['/', '\ufeff']) (hgap : Comment.isGap c = false) (hsticks : t.sticks = false)
    (hlexemes : t.lexemes = [.tokens [t]])
    (hnext : ∀ r, Bounds r → next? (t.chars ++ r) = some (.tokens [t], r)) : Legible [t] where
  settled := by
    rintro u ⟨rfl⟩
    exact hsticks
  front := by
    rw [chars_singleton, hchars]
    rintro d ⟨rfl⟩
    exact hc
  reads r hr := by
    have hnext := hnext r hr
    have hcode : lexemes [t] = [.tokens [t]] := by
      rw [lexemes, Token.lexemesAll, hlexemes]
      rfl
    rw [hchars] at hnext
    rw [chars_singleton, hchars, hcode, List.cons_append]
    exact split?_cons (fun h => hc (by rw [h]; decide)) hgap hnext (by simp)

/-- A plain word is read back. -/
theorem word {name : String} (h : Word.isPlain name.toList = true) : Legible [.word name] := by
  obtain ⟨c, w, hname, hc⟩ : ∃ c w, name.toList = c :: w ∧ isIdentifierStart c = true := by
    cases hname : name.toList with
    | nil =>
      rw [hname] at h
      cases h
    | cons c w =>
      rw [hname, Word.isPlain, Bool.and_eq_true] at h
      exact ⟨c, w, rfl, h.1⟩
  have hfront : ∀ c ∈ ['/', '\ufeff'], isIdentifierStart c = false :=
    forall_mem_of_all (by decide +kernel)
  refine of_next? hname (fun hmem => ?_) (isGap_of_isIdentifierStart hc) rfl rfl
    fun r hr => next?_word h hr
  rw [hfront c hmem] at hc
  cases hc

/-- A text is read back from its literal. -/
theorem ofText (t : String) : Legible [.ofText t] :=
  of_next? (toList_quote t) (by decide) (by decide) rfl rfl
    fun _ hr => next?_quote t (starts_of_bounds hr)

theorem mark {c : Char} (h : c ∈ ['=', ';', '!', ',', '.', ':']) : Legible (Emit.mark c) := by
  have hfront : ∀ c ∈ ['=', ';', '!', ',', '.', ':'], c ∉ ['/', '\ufeff'] :=
    forall_mem_of_all (by decide)
  have hgap : ∀ c ∈ ['=', ';', '!', ',', '.', ':'], Comment.isGap c = false :=
    forall_mem_of_all (by decide)
  refine of_next? (w := []) rfl (hfront c h) (hgap c h) rfl rfl fun r hr => ?_
  have hnext := next?_mark h r
  rw [sign?_of_bounds hr] at hnext
  exact hnext

/-- The first of two colons touches the second one. -/
theorem colons : Legible Emit.colons where
  settled := by
    rintro t ⟨rfl⟩
    rfl
  front := by
    rintro c ⟨rfl⟩
    decide
  reads r hr := by
    have hcolon := (mark (c := ':') (by decide)).reads r hr
    have hnext : next? (':' :: ':' :: r) = some (.tokens [.mark ':' .joint], ':' :: r) :=
      next?_mark (by decide) (':' :: r)
    have hfirst := split?_cons (c := ':') (by decide) (by decide) hnext (Nat.le_refl _)
    refine hfirst.trans ((congrArg (Option.map _) hcolon).trans ?_)
    rw [Option.map_map]
    rfl

theorem flatMap {α : Type} {f : α → Code} {xs : List α} (h : ∀ x ∈ xs, (f x).Legible) :
    Legible (xs.flatMap f) := by
  induction xs with
  | nil => exact nil
  | cons x xs ih =>
    obtain ⟨hx, hxs⟩ := List.forall_mem_cons.1 h
    exact hx.append (ih hxs)

theorem path {names : List String} (ha : a.Legible)
    (hnames : ∀ name ∈ names, Word.isPlain name.toList = true) : Legible (Emit.path a names) :=
  ha.append (flatMap fun name hname => colons.append (word (hnames name hname)))

/-- **Code that is read back** is the code of its text. -/
theorem ofChars?_chars (h : a.Legible) : ofChars? a.chars = some a := by
  have hmark : a.chars.head? ≠ some '\ufeff' := fun hc => absurd (by decide) (h.front _ hc)
  have hreads := h.reads [] bounds_nil
  rw [List.append_nil, split?_nil] at hreads
  have hnest := nestWith?_lexemes a [] [] []
  rw [List.append_nil, List.append_nil, nestWith?, List.reverse_reverse] at hnest
  rw [ofChars?_eq hmark, hreads, Option.map_some, List.append_nil]
  exact hnest

end Legible

end Code

end TextTemplate
