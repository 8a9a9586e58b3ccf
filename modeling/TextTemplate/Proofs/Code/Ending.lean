import TextTemplate.Proofs.Code.Semicolon

/-!
# Code with a semicolon after it

A semicolon that is added to the text of a piece of code is the last token of the code, unless the
text ends in a line comment, which takes the semicolon with it.

- `Ending`, `Lexeme.ending`: how a text ends.
- `Lexeme.split?_semicolon`, `Lexeme.split?_remark`, `Lexeme.split?_documentation`: the lexemes of a
  text with a semicolon.
- `Lexeme.nestWith?_append`, `Lexeme.nestWith?_before`: tokens after and before the lexemes.
- `Code.ofChars?_let_semicolon`, `Code.ofChars?_let_remark`, `Code.ofChars?_let_documentation`: the
  code of `let`, a text and a semicolon.
-/

namespace TextTemplate

/-- How a text ends, for a semicolon that is added to it. -/
inductive Ending
  /-- The semicolon is a token of its own. -/
  | closed
  /-- It belongs to a line comment, which is dropped. -/
  | remark
  /-- It belongs to a line of documentation. -/
  | documentation
deriving DecidableEq, Repr

open Text

/-! ## Lexemes without places -/

namespace Lexeme

/-- The lexemes of a text alone. -/
def split? (s : List Char) : Option (List Lexeme) :=
  let s' := Comment.skip s
  if s' = [] then some []
  else
    match next? s' with
    | none => none
    | some (lexeme, r) => if r.length < s'.length then (split? r).map (lexeme :: ·) else none
termination_by s.length
decreasing_by
  have h : s'.length ≤ s.length := Comment.length_skip s
  omega

/-- The ending of a text that is split into lexemes. -/
def ending (s : List Char) : Ending :=
  let s' := Comment.skip s
  if s' = [] then if Comment.endsInLine s then .remark else .closed
  else
    match next? s' with
    | none => .closed
    | some (_, r) =>
      if r.length < s'.length then
        if r.isEmpty && ['/', '/'].isPrefixOf s' then .documentation else ending r
      else .closed
termination_by s.length
decreasing_by
  have h : s'.length ≤ s.length := Comment.length_skip s
  omega

section

variable {s r : List Char} {lexeme : Lexeme}

theorem split?_of_skip_eq_nil (h : Comment.skip s = []) : split? s = some [] := by
  rw [split?, h]
  rfl

theorem split?_of_next?_eq_none (h : Comment.skip s ≠ []) (hnext : next? (Comment.skip s) = none) :
    split? s = none := by
  rw [split?]
  simp only [if_neg h, hnext]

theorem split?_of_next? (h : Comment.skip s ≠ [])
    (hnext : next? (Comment.skip s) = some (lexeme, r)) : split? s =
      if r.length < (Comment.skip s).length then (split? r).map (lexeme :: ·) else none := by
  rw [split?]
  simp only [if_neg h, hnext]

end

/-- The lexemes are those that are found with their places. -/
theorem values_from? (start : Nat) (s : List Char) :
    (from? start s).map Placed.values = split? s := by
  fun_induction from? start s with
  | case1 start s s' h => rw [split?_of_skip_eq_nil h]; rfl
  | case2 start s s' h hnext => rw [split?_of_next?_eq_none h hnext]; rfl
  | case3 start s s' h lexeme r hnext hlt before after =>
    rename_i ih
    rw [split?_of_next? h hnext, if_pos hlt, ← ih, Option.map_map, Option.map_map]
    rfl
  | case4 start s s' h lexeme r hnext hlt => rw [split?_of_next? h hnext, if_neg hlt]; rfl

theorem touching_of_ne_nil {r : List Char} (h : r ≠ []) (lexeme : Lexeme) :
    lexeme.touching r = lexeme := by
  rw [touching.eq_def]
  split
  · next t => cases t <;> simp [Token.touching, h]
  · rfl

theorem split?_nil : split? [] = some [] :=
  split?_of_skip_eq_nil Comment.skip_nil

theorem split?_mark : split? [';'] = some [.tokens [.mark ';' .alone]] := by
  have hnext : next? (Comment.skip [';']) = some (.tokens [.mark ';' .alone], []) := by
    rw [Comment.skip_mark]
    rfl
  rw [split?_of_next? (by simp [Comment.skip_mark]) hnext, Comment.skip_mark, split?_nil]
  rfl

section

variable {s r : List Char} {lexeme : Lexeme}

/-- With a semicolon after the text its first lexeme is the same, and the semicolon stands after
what follows. -/
theorem split?_semicolon_of_next? (h : Comment.skip s ≠ [])
    (hnext : next? (Comment.skip s) = some (lexeme, r))
    (hline : r = [] → ['/', '/'].isPrefixOf (Comment.skip s) = false) :
    split? (s ++ [';']) = if r.length < (Comment.skip s).length
      then (split? (r ++ [';'])).map (lexeme.touching r :: ·) else none := by
  have hskip := Comment.skip_semicolon_of_ne_nil h
  have hdoc : ∀ d r', Comment.documentation? (Comment.skip s) = some (d, r') →
      ['/', '/'].isPrefixOf (Comment.skip s) = true → r' ≠ [] := by
    intro d r' hd hprefix hr'
    have hsame : next? (Comment.skip s) = some (.tokens (ofDocumentation d), r') := by
      rw [next?, hd]
    obtain ⟨-, rfl⟩ := Prod.mk.inj (Option.some.inj (hnext.symm.trans hsame))
    rw [hline hr'] at hprefix
    cases hprefix
  have hnext' : next? (Comment.skip (s ++ [';'])) = some (lexeme.touching r, r ++ [';']) := by
    rw [hskip, next?_semicolon h hdoc, hnext]
    rfl
  rw [split?_of_next? (by simp [hskip]) hnext', hskip]
  simp only [List.length_append, List.length_singleton, Nat.add_lt_add_iff_right]

theorem split?_semicolon_of_next?_eq_none (h : Comment.skip s ≠ [])
    (hnext : next? (Comment.skip s) = none) : split? (s ++ [';']) = none := by
  have hskip := Comment.skip_semicolon_of_ne_nil h
  have hdoc : ∀ d r', Comment.documentation? (Comment.skip s) = some (d, r') →
      ['/', '/'].isPrefixOf (Comment.skip s) = true → r' ≠ [] := by
    intro d r' hd
    rw [next?, hd] at hnext
    cases hnext
  refine split?_of_next?_eq_none (by simp [hskip]) ?_
  rw [hskip, next?_semicolon h hdoc, hnext]
  rfl

theorem touching_nil (lexeme : Lexeme) : lexeme.touching [] = lexeme ∨
    ∃ c, lexeme = .tokens [.mark c .alone] ∧ lexeme.touching [] = .tokens [.mark c .joint] := by
  rw [touching.eq_def]
  split
  · next t =>
    cases t with
    | mark c spacing =>
      cases spacing with
      | alone => exact .inr ⟨c, rfl, rfl⟩
      | joint => exact .inl rfl
    | word name => exact .inl rfl
    | literal text => exact .inl rfl
    | group d body => exact .inl rfl
  · exact .inl rfl

theorem ending_nil : ending [] = .closed := by
  rw [ending]
  simp [Comment.skip_nil, Comment.endsInLine]

/-- A semicolon after a text that no line comment ends with is a lexeme of its own. Where a mark
ends the text it comes to touch the semicolon. -/
theorem split?_semicolon (h : ending s = .closed) :
    split? (s ++ [';']) = (split? s).map (· ++ [.tokens [.mark ';' .alone]]) ∨
      ∃ front c, split? s = some (front ++ [.tokens [.mark c .alone]]) ∧
        split? (s ++ [';']) =
          some (front ++ [.tokens [.mark c .joint], .tokens [.mark ';' .alone]]) := by
  fun_induction ending s with
  | case1 => cases h
  | case2 s s' hs hline =>
    have hskip : Comment.skip (s ++ [';']) = Comment.skip [';'] := by
      rw [Comment.skip_semicolon, if_neg hline]
      exact (congrArg (· ++ [';']) hs).trans Comment.skip_mark.symm
    have hsame : split? (s ++ [';']) = split? [';'] := by rw [split?.eq_def, hskip, ← split?.eq_def]
    rw [hsame, split?_mark, split?_of_skip_eq_nil hs]
    exact .inl rfl
  | case3 s s' hs hnext =>
    left
    rw [split?_semicolon_of_next?_eq_none hs hnext, split?_of_next?_eq_none hs hnext]
    rfl
  | case4 => cases h
  | case5 s s' hs lexeme r hnext hlt hline ih =>
    have hno : r = [] → ['/', '/'].isPrefixOf s' = false := by
      rintro rfl
      exact Bool.eq_false_iff.2 fun hprefix => hline (Bool.and_eq_true_iff.2 ⟨rfl, hprefix⟩)
    rw [split?_semicolon_of_next? hs hnext hno, split?_of_next? hs hnext, if_pos hlt, if_pos hlt]
    by_cases hr : r = []
    · subst hr
      rw [List.nil_append, split?_mark, split?_nil]
      rcases touching_nil lexeme with hsame | ⟨c, rfl, htouching⟩
      · rw [hsame]
        exact .inl rfl
      · rw [htouching]
        exact .inr ⟨[], c, rfl, rfl⟩
    · rw [touching_of_ne_nil hr]
      rcases ih h with hsplit | ⟨front, c, hfront, hsplit⟩
      · left
        rw [hsplit, Option.map_map, Option.map_map]
        rfl
      · refine .inr ⟨lexeme :: front, c, ?_, ?_⟩
        · rw [hfront]
          rfl
        · rw [hsplit]
          rfl
  | case6 s s' hs lexeme r hnext hlt =>
    have hno : r = [] → ['/', '/'].isPrefixOf s' = false := by
      rintro rfl
      exact absurd (List.length_pos_iff.2 hs) hlt
    left
    rw [split?_semicolon_of_next? hs hnext hno, split?_of_next? hs hnext, if_neg hlt, if_neg hlt]
    rfl

/-- A semicolon after a text that ends in a remark is dropped with it. -/
theorem split?_remark (h : ending s = .remark) : split? (s ++ [';']) = split? s := by
  fun_induction ending s with
  | case1 s s' hs hline =>
    have hskip : Comment.skip (s ++ [';']) = [] := by rw [Comment.skip_semicolon, if_pos hline]
    rw [split?_of_skip_eq_nil hskip, split?_of_skip_eq_nil hs]
  | case2 => cases h
  | case3 => cases h
  | case4 => cases h
  | case5 s s' hs lexeme r hnext hlt hline ih =>
    have hr : r ≠ [] := by
      rintro rfl
      rw [ending_nil] at h
      cases h
    rw [split?_semicolon_of_next? hs hnext (absurd · hr), split?_of_next? hs hnext, if_pos hlt,
      if_pos hlt, ih h, touching_of_ne_nil hr]
  | case6 => cases h

/-- Two slashes begin nothing but documentation. -/
theorem next?_slashes (h : ['/', '/'].isPrefixOf s = true) :
    next? s = (Comment.documentation? s).map fun (d, r) => (.tokens (ofDocumentation d), r) := by
  obtain ⟨t, rfl⟩ := List.isPrefixOf_iff_prefix.1 h
  have hdelimiter : delimiter? (['/', '/'] ++ t) = none := rfl
  have hleaf : leaf? (['/', '/'] ++ t) = none := rfl
  rw [next?, hdelimiter, hleaf]
  cases Comment.documentation? (['/', '/'] ++ t) with
  | none => rfl
  | some found => rfl

/-- A semicolon after a text that ends in a line of documentation belongs to it. -/
theorem split?_documentation (h : ending s = .documentation) : split? (s ++ [';']) = none ∨
    ∃ front d, split? (s ++ [';']) = some (front ++ [.tokens (ofDocumentation d)]) := by
  fun_induction ending s with
  | case1 => cases h
  | case2 => cases h
  | case3 => cases h
  | case4 s s' hs lexeme r hnext hlt hline =>
    obtain ⟨hr, hprefix⟩ := Bool.and_eq_true_iff.1 hline
    obtain rfl := List.isEmpty_iff.1 hr
    rw [next?_slashes hprefix] at hnext
    obtain ⟨⟨d, r⟩, hd, hpair⟩ := Option.map_eq_some_iff.1 hnext
    obtain ⟨-, rfl⟩ := Prod.mk.inj hpair
    obtain ⟨d', hd'⟩ := Comment.exists_documentation?_semicolon hd hprefix
    have hskip := Comment.skip_semicolon_of_ne_nil hs
    have hnext' : next? (Comment.skip (s ++ [';'])) = some (.tokens (ofDocumentation d'), []) := by
      rw [hskip, next?, hd']
    refine .inr ⟨[], d', ?_⟩
    rw [split?_of_next? (by simp [hskip]) hnext', if_pos (by simp [hskip]), split?_nil]
    rfl
  | case5 s s' hs lexeme r hnext hlt hline ih =>
    have hr : r ≠ [] := by
      rintro rfl
      rw [ending_nil] at h
      cases h
    rw [split?_semicolon_of_next? hs hnext (absurd · hr), if_pos hlt]
    rcases ih h with hnone | ⟨front, d, hsplit⟩
    · left
      rw [hnone]
      rfl
    · refine .inr ⟨lexeme.touching r :: front, d, ?_⟩
      rw [hsplit]
      rfl
  | case6 => cases h

end

/-! ## Groups without places -/

/-- The token trees that lexemes make up, given the groups that are open, innermost first, each with
what stands before it, and the tokens of the innermost one so far, last first. -/
def nestWith? : List Lexeme → List (Delimiter × Code) → Code → Option Code
  | [], [], done => some done.reverse
  | [], _ :: _, _ => none
  | .tokens code :: rest, opened, done => nestWith? rest opened (code.reverse ++ done)
  | .opening d :: rest, opened, done => nestWith? rest ((d, done) :: opened) []
  | .closing d :: rest, (e, before) :: opened, done =>
    if e = d then nestWith? rest opened (.group d done.reverse :: before) else none
  | .closing _ :: _, [], _ => none

theorem values_nestWith? (lexemes : List (Placed Lexeme)) (opened : List Placed.Open)
    (done : List (Placed Token)) :
    (Placed.nestWith? lexemes opened done).map Placed.values =
      nestWith? (Placed.values lexemes) (opened.map fun g => (g.delimiter, Placed.values g.before))
        (Placed.values done) := by
  fun_induction Placed.nestWith? lexemes opened done with
  | case1 done => simp [nestWith?, Placed.values]
  | case2 => rfl
  | case3 start stop code rest opened done ih =>
    rw [ih]
    simp [nestWith?, Placed.values, Function.comp_def]
  | case4 start stop d rest opened done ih =>
    rw [ih]
    rfl
  | case5 start stop rest g opened done ih =>
    rw [ih]
    simp [nestWith?, Placed.values]
  | case6 start stop d rest g opened done h =>
    simp [nestWith?, Placed.values, h]
  | case7 => rfl

/-- Tokens after lexemes stand after the token trees that they make up. -/
theorem nestWith?_append (code : Code) (lexemes : List Lexeme) (opened : List (Delimiter × Code))
    (done : Code) : nestWith? (lexemes ++ [.tokens code]) opened done =
      (nestWith? lexemes opened done).map (· ++ code) := by
  fun_induction nestWith? lexemes opened done with
  | case1 done => simp [nestWith?]
  | case2 => rfl
  | case3 code rest opened done ih => rw [List.cons_append, nestWith?, ih]
  | case4 d rest opened done ih => rw [List.cons_append, nestWith?, ih]
  | case5 rest d before opened done ih => rw [List.cons_append, nestWith?, if_pos rfl, ih]
  | case6 d rest e before opened done h =>
    rw [List.cons_append, nestWith?, if_neg h]
    rfl
  | case7 => rfl

/-- Puts a token before the outermost of the groups that are open. -/
def before (t : Token) : List (Delimiter × Code) → Code → List (Delimiter × Code) × Code
  | [], done => ([], done ++ [t])
  | (d, front) :: opened, done =>
    (((d, (before t opened front).2) :: (before t opened front).1), done)

theorem before_append (t : Token) (opened : List (Delimiter × Code)) (code done : Code) :
    before t opened (code ++ done) =
      ((before t opened done).1, code ++ (before t opened done).2) := by
  cases opened with
  | nil => simp [before]
  | cons g opened => rfl

theorem nestWith?_before (t : Token) (lexemes : List Lexeme) (opened : List (Delimiter × Code))
    (done : Code) :
    nestWith? lexemes (before t opened done).1 (before t opened done).2 =
      (nestWith? lexemes opened done).map (t :: ·) := by
  fun_induction nestWith? lexemes opened done with
  | case1 done => simp [nestWith?, before]
  | case2 => rfl
  | case3 code rest opened done ih =>
    rw [before_append] at ih
    rw [nestWith?]
    exact ih
  | case4 d rest opened done ih => exact ih
  | case5 rest d front opened done ih =>
    have happend := before_append t opened [.group d done.reverse] front
    rw [List.singleton_append] at happend
    rw [happend] at ih
    rw [before, nestWith?, if_pos rfl]
    exact ih
  | case6 d rest e front opened done h =>
    rw [before, nestWith?, if_neg h]
    rfl
  | case7 => rfl

/-! ## A word before the lexemes -/

/-- White space before a text is no lexeme. -/
theorem split?_blank (s : List Char) : split? (' ' :: s) = split? s := by
  have hskip : Comment.skip (' ' :: s) = Comment.skip s := by
    rw [Comment.skip, if_neg (by simp [Comment.startsLine]), if_neg (by simp [Comment.startsBlock]),
      if_pos (by decide)]
  rw [split?.eq_def, hskip, ← split?.eq_def]

/-- The word `let` and a blank at the front of a text. -/
theorem next?_let (s : List Char) :
    next? ('l' :: 'e' :: 't' :: ' ' :: s) = some (.tokens [.word "let"], ' ' :: s) := rfl

theorem split?_let (s : List Char) :
    split? ("let ".toList ++ s) = (split? s).map (.tokens [.word "let"] :: ·) := by
  have htext : "let ".toList ++ s = 'l' :: 'e' :: 't' :: ' ' :: s := rfl
  have hskip : Comment.skip ('l' :: 'e' :: 't' :: ' ' :: s) = 'l' :: 'e' :: 't' :: ' ' :: s :=
    Comment.skip_char (by simp [Comment.startsLine]) (by simp [Comment.startsBlock])
  have hnext := (congrArg next? hskip).trans (next?_let s)
  rw [htext, split?_of_next? (by simp [hskip]) hnext, hskip, split?_blank, if_pos]
  simp

/-- A byte order mark is no lexeme. Only the one before a whole text is passed over. -/
theorem split?_byteOrderMark (s : List Char) : split? ('\ufeff' :: s) = none := by
  have hskip : Comment.skip ('\ufeff' :: s) = '\ufeff' :: s :=
    Comment.skip_char (by simp [Comment.startsLine]) (by simp [Comment.startsBlock])
  have hstart : isIdentifierStart '\ufeff' = false := by decide +kernel
  have hsplit : Word.splitAny? ('\ufeff' :: s) = none := by
    rw [Word.splitAny?.eq_2 _ (by simp), Word.split?, if_neg (by simp [hstart])]
  have hliteral : literal? ('\ufeff' :: s) = none := rfl
  have hmark : mark? ('\ufeff' :: s) = none := rfl
  have hopening : startsWithAny literalOpenings ('\ufeff' :: s) = false := rfl
  have hword : word? ('\ufeff' :: s) = none := by simp [word?, hopening, hsplit]
  have herror : errorMark.isPrefixOf ('\ufeff' :: s) = false := rfl
  have hleaf : leaf? ('\ufeff' :: s) = none := by simp [leaf?, hliteral, hmark, hword, herror]
  have hdoc : Comment.documentation? ('\ufeff' :: s) = none := rfl
  have hdelimiter : delimiter? ('\ufeff' :: s) = none := rfl
  have hnext : next? ('\ufeff' :: s) = none := by simp [next?, hdoc, hdelimiter, hleaf]
  exact split?_of_next?_eq_none (by simp [hskip]) ((congrArg next? hskip).trans hnext)

end Lexeme

/-! ## Code -/

namespace Code

open Lexeme

theorem ofChars?_eq {s : List Char} (h : s.head? ≠ some '\ufeff') :
    ofChars? s = (split? s).bind (nestWith? · [] []) := by
  have hall : Lexeme.all? s = from? 0 s := by
    refine Lexeme.all?.eq_2 s ?_
    rintro t rfl
    exact h rfl
  rw [ofChars?, locate?, hall, ← values_from? 0 s]
  cases from? 0 s with
  | none => rfl
  | some lexemes => exact values_nestWith? lexemes [] []

/-- The code of a text after the word `let`. -/
theorem ofChars?_let (s : List Char) :
    ofChars? ("let ".toList ++ s) =
      ((split? s).bind (nestWith? · [] [])).map (.word "let" :: ·) := by
  have hhead : ("let ".toList ++ s).head? ≠ some '\ufeff' := by
    show some 'l' ≠ some '\ufeff'
    decide
  rw [ofChars?_eq hhead, split?_let]
  cases split? s with
  | none => rfl
  | some lexemes => exact nestWith?_before (.word "let") lexemes [] []

variable {s : List Char} {code : Code}

/-- A semicolon after a text that no line comment ends with is the last token of its code. -/
theorem bind_nestWith?_semicolon (h : ending s = .closed)
    (hcode : (split? s).bind (nestWith? · [] []) = some code) :
    (split? (s ++ [';'])).bind (nestWith? · [] []) = some (code ++ [.mark ';' .alone]) ∨
      ∃ front c, code = front ++ [.mark c .alone] ∧
        (split? (s ++ [';'])).bind (nestWith? · [] []) =
          some (front ++ [.mark c .joint, .mark ';' .alone]) := by
  rcases split?_semicolon h with hsplit | ⟨front, c, hfront, hsplit⟩
  · left
    cases hlexemes : split? s with
    | none =>
      rw [hlexemes] at hcode
      cases hcode
    | some lexemes =>
      rw [hlexemes] at hcode
      rw [hsplit, hlexemes]
      exact (nestWith?_append _ lexemes [] []).trans (congrArg (Option.map _) hcode)
  · right
    rw [hfront, Option.bind_some, nestWith?_append] at hcode
    obtain ⟨code, hnest, rfl⟩ := Option.map_eq_some_iff.1 hcode
    refine ⟨code, c, rfl, ?_⟩
    have hlast : front ++ [.tokens [.mark c .joint], .tokens [.mark ';' .alone]] =
        (front ++ [.tokens [.mark c .joint]]) ++ [.tokens [.mark ';' .alone]] := by simp
    rw [hsplit, Option.bind_some, hlast, nestWith?_append, nestWith?_append, hnest]
    simp

/-- The code of `let`, a text and a semicolon, where the text does not end in a line comment: the
semicolon is a token of its own, which a mark at the end of the text touches. -/
theorem ofChars?_let_semicolon (h : ending s = .closed) (hhead : s.head? ≠ some '\ufeff')
    (hcode : ofChars? s = some code) :
    ofChars? ("let ".toList ++ s ++ [';']) = some (.word "let" :: code ++ [.mark ';' .alone]) ∨
      ∃ front c, code = front ++ [.mark c .alone] ∧
        ofChars? ("let ".toList ++ s ++ [';']) =
          some (.word "let" :: front ++ [.mark c .joint, .mark ';' .alone]) := by
  rw [ofChars?_eq hhead] at hcode
  rw [List.append_assoc, ofChars?_let]
  rcases bind_nestWith?_semicolon h hcode with hsame | ⟨front, c, rfl, htouching⟩
  · left
    rw [hsame]
    rfl
  · refine .inr ⟨front, c, rfl, ?_⟩
    rw [htouching]
    rfl

/-- A semicolon after a line comment is dropped with it. -/
theorem ofChars?_let_remark (h : ending s = .remark) (hhead : s.head? ≠ some '\ufeff')
    (hcode : ofChars? s = some code) :
    ofChars? ("let ".toList ++ s ++ [';']) = some (.word "let" :: code) := by
  rw [ofChars?_eq hhead] at hcode
  rw [List.append_assoc, ofChars?_let, split?_remark h, hcode]
  rfl

/-- A semicolon after a line of documentation belongs to it, so that the code ends in the attribute
that it stands for. -/
theorem ofChars?_let_documentation (h : ending s = .documentation)
    (hcode : ofChars? ("let ".toList ++ s ++ [';']) = some code) :
    ∃ front body, code = front ++ [.group .bracket body] := by
  rw [List.append_assoc, ofChars?_let] at hcode
  rcases split?_documentation h with hnone | ⟨front, d, hsplit⟩
  · rw [hnone] at hcode
    cases hcode
  · rw [hsplit, Option.bind_some, nestWith?_append] at hcode
    obtain ⟨after, hafter, rfl⟩ := Option.map_eq_some_iff.1 hcode
    obtain ⟨rest, -, rfl⟩ := Option.map_eq_some_iff.1 hafter
    rw [ofDocumentation, ← List.append_assoc, ← List.cons_append]
    exact ⟨_, _, rfl⟩

theorem ofChars?_let_of_eq_some (hhead : s.head? ≠ some '\ufeff') (hcode : ofChars? s = some code) :
    ofChars? ("let ".toList ++ s) = some (.word "let" :: code) := by
  rw [ofChars?_eq hhead] at hcode
  rw [ofChars?_let, hcode]
  rfl

theorem ofChars?_let_byteOrderMark (s : List Char) :
    ofChars? ("let ".toList ++ '\ufeff' :: s) = none := by
  rw [ofChars?_let, split?_byteOrderMark]
  rfl

end Code

end TextTemplate
