import TextTemplate.Expansion.Construct

/-!
# Words in code

Which words stand in a piece of code, which of them follow a `let`, and which blocks there are, all
at every depth.

- `Code.words`: the words, in the order in which they are written.
- `Code.declared`: the words after `let`, or after `let mut`.
- `Code.blocks`: what stands in braces.
- `words_binding`, `words_list`, `words_leaf`, `words_emitChoice`, `words_emitLoop`,
  `words_emitEmpty`: the words of emitted code.
-/

namespace TextTemplate

namespace Token

mutual

/-- The words in a token tree. -/
def words : Token → List String
  | word name => [name]
  | mark _ _ | literal _ => []
  | group _ body => wordsList body

/-- The words in token trees. -/
def wordsList : List Token → List String
  | [] => []
  | t :: rest => t.words ++ wordsList rest

end

/-- The word that a `let` in front of some code declares. -/
def declaredFirst : List Token → List String
  | .word "mut" :: .word name :: _ => [name]
  | .word "mut" :: _ => []
  | .word name :: _ => [name]
  | _ => []

mutual

/-- The words that are declared in a token tree. -/
def declared : Token → List String
  | word _ | mark _ _ | literal _ => []
  | group _ body => declaredList body

/-- The words that are declared in token trees. -/
def declaredList : List Token → List String
  | [] => []
  | t :: rest =>
    (if t = .word "let" then declaredFirst rest else []) ++ (t.declared ++ declaredList rest)

end

mutual

/-- The contents of the braces in a token tree. -/
def blocks : Token → List (List Token)
  | word _ | mark _ _ | literal _ => []
  | group .brace body => body :: blocksList body
  | group .paren body | group .bracket body => blocksList body

/-- The contents of the braces in token trees. -/
def blocksList : List Token → List (List Token)
  | [] => []
  | t :: rest => t.blocks ++ blocksList rest

end

end Token

namespace Code

open Token

/-- The words in a piece of code, at every depth. -/
def words (code : Code) : List String := wordsList code

/-- The words that are declared in a piece of code, at every depth. -/
def declared (code : Code) : List String := declaredList code

/-- The blocks in a piece of code, at every depth: what stands in braces. -/
def blocks (code : Code) : List Code := blocksList code

variable (a b : Code)

@[simp] theorem words_nil : words [] = [] := rfl

@[simp] theorem words_word_cons (name : String) : words (.word name :: a) = name :: words a := rfl

@[simp] theorem words_mark_cons (c : Char) (s : Spacing) : words (.mark c s :: a) = words a := rfl

@[simp] theorem words_literal_cons (t : String) : words (.literal t :: a) = words a := rfl

@[simp] theorem words_group_cons (d : Delimiter) (body : Code) :
    words (.group d body :: a) = words body ++ words a := rfl

@[simp] theorem words_append : words (a ++ b) = words a ++ words b := by
  induction a with
  | nil => rfl
  | cons t a ih =>
    show t.words ++ words (a ++ b) = t.words ++ words a ++ words b
    rw [ih, List.append_assoc]

@[simp] theorem blocks_nil : blocks [] = [] := rfl

@[simp] theorem blocks_word_cons (name : String) : blocks (.word name :: a) = blocks a := rfl

@[simp] theorem blocks_mark_cons (c : Char) (s : Spacing) : blocks (.mark c s :: a) = blocks a :=
  rfl

@[simp] theorem blocks_brace_cons (body : Code) :
    blocks (.group .brace body :: a) = body :: (blocks body ++ blocks a) := rfl

@[simp] theorem blocks_paren_cons (body : Code) :
    blocks (.group .paren body :: a) = blocks body ++ blocks a := rfl

@[simp] theorem blocks_append : blocks (a ++ b) = blocks a ++ blocks b := by
  induction a with
  | nil => rfl
  | cons t a ih =>
    show t.blocks ++ blocks (a ++ b) = t.blocks ++ blocks a ++ blocks b
    rw [ih, List.append_assoc]

@[simp] theorem declared_group_cons (d : Delimiter) (body : Code) :
    declared (.group d body :: a) = declared body ++ declared a := rfl

theorem declared_cons (t : Token) : declared (t :: a) =
    (if t = .word "let" then declaredFirst a else []) ++ (t.declared ++ declared a) := rfl

theorem declared_let_cons : declared (.word "let" :: a) = declaredFirst a ++ declared a := rfl

theorem declared_word_cons {name : String} (h : name ≠ "let") :
    declared (.word name :: a) = declared a := by
  show (if Token.word name = .word "let" then declaredFirst a else []) ++ ([] ++ declared a) = _
  rw [if_neg fun e => h (Token.word.inj e)]
  rfl

theorem declaredFirst_word_cons {name : String} (h : name ≠ "mut") :
    declaredFirst (.word name :: a) = [name] := by
  rw [declaredFirst.eq_def]
  split
  · next heq => exact absurd (Token.word.inj (List.cons.inj heq).1) h
  · next heq => exact absurd (Token.word.inj (List.cons.inj heq).1) h
  · next heq => rw [Token.word.inj (List.cons.inj heq).1]
  · next hword => exact absurd rfl (hword _ _)

/-- What is declared is written. -/
theorem declaredFirst_subset : declaredFirst a ⊆ words a := by
  rw [declaredFirst.eq_def]
  split
  · exact List.subset_cons_of_subset _ (List.cons_subset_cons _ (List.nil_subset _))
  · exact List.nil_subset _
  · exact List.cons_subset_cons _ (List.nil_subset _)
  · exact List.nil_subset _

mutual

theorem declared_subset_token (t : Token) : t.declared ⊆ t.words := by
  match t with
  | .word _ | .mark _ _ | .literal _ => exact List.nil_subset _
  | .group d body => exact declared_subset body

/-- What is declared is written. -/
theorem declared_subset (code : Code) : code.declared ⊆ code.words := by
  match code with
  | [] => exact List.nil_subset _
  | t :: rest =>
    have ht : t.declared ⊆ words (t :: rest) :=
      List.subset_append_of_subset_left _ (declared_subset_token t)
    have hrest : declared rest ⊆ words (t :: rest) :=
      List.subset_append_of_subset_right _ (declared_subset rest)
    have hfirst : declaredFirst rest ⊆ words (t :: rest) :=
      List.subset_append_of_subset_right _ (declaredFirst_subset rest)
    refine List.append_subset.2 ⟨?_, List.append_subset.2 ⟨ht, hrest⟩⟩
    split
    · exact hfirst
    · exact List.nil_subset _

end

end Code

/-! ## Emitted code -/

open Code

theorem words_path (front : Code) (names : List String) :
    (Emit.path front names).words = front.words ++ names := by
  rw [Emit.path, words_append]
  congr 1
  induction names with
  | nil => rfl
  | cons name names ih => rw [List.flatMap_cons, words_append, ih]; rfl

theorem words_call (function argument : Code) :
    (Emit.call function argument).words = function.words ++ argument.words := by
  simp [Emit.call]

theorem words_binding (runtime : Code) (id : String) (expr : Code) :
    (Emit.binding runtime (.word id) expr).words =
      "let" :: id :: (runtime.words ++ ["IntoFragment", "into_fragment"] ++ expr.words) := by
  simp [Emit.binding, Emit.mark, joined, words_call, words_path]

theorem words_effect (expr : Code) : (Emit.effect expr).words = expr.words := by
  simp [Emit.effect, Emit.mark, joined]

theorem words_leaf (runtime : Code) (s : String) :
    (Emit.leaf runtime s).words =
      runtime.words ++ ["FragmentTree", "Text"] ++ ["std", "borrow", "Cow", "Borrowed"] := by
  simp [Emit.leaf, words_call, words_path, Token.ofText]

theorem words_commas (items : List Code) : (Emit.commas items).words = items.flatMap words := by
  fun_induction Emit.commas items with
  | case1 => rfl
  | case2 item => simp
  | case3 item rest _ ih => simp [Emit.mark, joined, ih]

theorem words_list (runtime : Code) (items : List Code) :
    (Emit.list runtime items).words =
      runtime.words ++ ["FragmentTree", "List"] ++ ["std", "vec"] ++ items.flatMap words := by
  simp [Emit.list, Emit.mark, joined, words_call, words_path, words_commas]

theorem words_emitEmpty (runtime : Code) :
    (Construct.emitEmpty runtime).words = runtime.words ++ ["FragmentTree", "empty"] := by
  simp [Construct.emitEmpty, words_call, words_path]

theorem words_emitChoice (condition body otherwise : Code) :
    (Construct.emitChoice condition body otherwise).words =
      "if" :: (condition.words ++ body.words ++ "else" :: otherwise.words) := by
  simp [Construct.emitChoice]

theorem words_emitLoop (runtime : Code) (id : String) (pattern iterator body : Code) :
    (Construct.emitLoop runtime (.word id) pattern iterator body).words =
      "let" :: "mut" :: id :: (["std", "vec", "Vec", "new"] ++ "for" :: pattern.words ++
        "in" :: iterator.words ++ id :: "push" :: body.words ++ runtime.words ++
        ["FragmentTree", "List"] ++ [id]) := by
  simp [Construct.emitLoop, Emit.mark, joined, words_call, words_path]

end TextTemplate
