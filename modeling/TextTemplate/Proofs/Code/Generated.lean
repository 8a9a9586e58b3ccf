import TextTemplate.Proofs.Code.Words
import TextTemplate.Proofs.Program.Entry

/-!
# Generated names in code

Names are generated from a stem and a number. In the code that is emitted they are the words with
that stem and digits after it, if the code that it is made from has no such words.

- `Ident.isNumbered`: words that may be generated names.
- `Code.Free`: code without such words.
- `Code.numbered`, `Code.numberedDeclared`: the words of this form in a piece of code, and those
  that are declared there.
- `Code.Inert`, `numberedDeclared_append`: declarations add up wherever no name could follow a `let`
  by accident.
- `numbered_binding`, `numbered_list`, `numbered_emitChoice`, `numbered_emitLoop` and the like: what
  the emitted code writes and declares besides the code that it is made from.
-/

namespace TextTemplate

/-! ## Words with numbers -/

namespace Ident

/-- Whether a word is a stem with digits after it. -/
def isNumbered (stem word : String) : Bool :=
  let digits := word.toList.drop stem.toList.length
  stem.toList.isPrefixOf word.toList && !digits.isEmpty && digits.all Char.isDigit

theorem isNumbered_numbered (stem : String) (n : Nat) :
    isNumbered stem (numbered stem n).name = true := by
  have hlist : (numbered stem n).name.toList = stem.toList ++ Nat.toDigits 10 n := by
    rw [name_numbered, String.toList_append, Nat.toString_eq_repr, Nat.toList_repr]
  have hprefix : stem.toList.isPrefixOf (stem.toList ++ Nat.toDigits 10 n) = true :=
    List.isPrefixOf_iff_prefix.2 (List.prefix_append _ _)
  have hne : (Nat.toDigits 10 n).isEmpty = false :=
    List.isEmpty_eq_false_iff.2 Nat.toDigits_ne_nil
  have hdigits : (Nat.toDigits 10 n).all Char.isDigit = true :=
    List.all_eq_true.2 fun c hc => Nat.isDigit_of_mem_toDigits (by decide) (by decide) hc
  rw [isNumbered, hlist, List.drop_left, hprefix, hne, hdigits]
  rfl

/-- Whether a word ends in a digit. -/
def endsInDigit (word : String) : Bool := word.toList.getLast?.any Char.isDigit

/-- A word that does not end in a digit has no number. -/
theorem isNumbered_eq_false {word : String} (h : endsInDigit word = false) (stem : String) :
    isNumbered stem word = false := by
  refine Bool.eq_false_iff.2 fun hnumbered => ?_
  simp only [isNumbered, Bool.and_eq_true, Bool.not_eq_true', List.isEmpty_eq_false_iff,
    List.all_eq_true, List.isPrefixOf_iff_prefix] at hnumbered
  obtain ⟨⟨-, hne⟩, hdigits⟩ := hnumbered
  have hlast : word.toList.getLast? = some ((word.toList.drop stem.toList.length).getLast hne) := by
    rw [← List.getLast?_eq_some_getLast, List.getLast?_drop,
      if_neg fun hle => hne (List.drop_eq_nil_iff.2 hle)]
  rw [endsInDigit, hlast, Option.any_some, hdigits _ (List.getLast_mem hne)] at h
  exact Bool.noConfusion h

/-- A word that does not end in a digit is no generated name. -/
theorem ne_of_isNumbered {stem id word : String} (hid : isNumbered stem id = true)
    (hword : endsInDigit word = false) : id ≠ word := by
  rintro rfl
  rw [isNumbered_eq_false hword] at hid
  exact Bool.noConfusion hid

end Ident

namespace Code

open Token

variable (stem : String)

/-- Code without generated names. -/
def Free (code : Code) : Prop := ∀ word ∈ code.words, Ident.isNumbered stem word = false

instance (code : Code) : Decidable (Free stem code) :=
  inferInstanceAs (Decidable (∀ word ∈ code.words, _))

/-- The generated names in a piece of code, as often as they are written. -/
def numbered (code : Code) : List String := code.words.filter (Ident.isNumbered stem)

/-- The generated names that are declared in a piece of code. -/
def numberedDeclared (code : Code) : List String := code.declared.filter (Ident.isNumbered stem)

variable {stem} {a b : Code}

theorem free_nil : Free stem [] := fun _ hword => absurd hword List.not_mem_nil

theorem Free.filter_words (h : a.Free stem) : a.words.filter (Ident.isNumbered stem) = [] :=
  List.filter_eq_nil_iff.2 fun word hword => Bool.eq_false_iff.1 (h word hword)

theorem Free.numbered_eq_nil (h : a.Free stem) : a.numbered stem = [] := h.filter_words

theorem free_of_numbered_eq_nil (h : a.numbered stem = []) : a.Free stem :=
  fun word hword => Bool.eq_false_iff.2 (List.filter_eq_nil_iff.1 h word hword)

theorem Free.numberedDeclared_eq_nil (h : a.Free stem) : a.numberedDeclared stem = [] :=
  List.filter_eq_nil_iff.2 fun word hword => Bool.eq_false_iff.1 (h word (declared_subset a hword))

/-- A generated name stands in a piece of code as often as among the generated names of it. -/
theorem count_words {word : String} (h : Ident.isNumbered stem word = true) :
    a.words.count word = (a.numbered stem).count word :=
  (List.count_filter h).symm

theorem numbered_append : (a ++ b).numbered stem = a.numbered stem ++ b.numbered stem := by
  rw [numbered, words_append, List.filter_append]
  rfl

/-! ## Declarations -/

/-- Code that does not begin with a word that a `let` before it could declare: if it begins with a
word at all, that is neither a generated name nor `mut`. -/
def Inert (stem : String) (code : Code) : Prop :=
  ∀ name rest, code = .word name :: rest → Ident.isNumbered stem name = false ∧ name ≠ "mut"

theorem inert_mark_cons (c : Char) (s : Spacing) (a : Code) : Inert stem (.mark c s :: a) := nofun

theorem inert_group_cons (d : Delimiter) (body a : Code) : Inert stem (.group d body :: a) := nofun

theorem inert_word_cons {name : String} (h : Ident.endsInDigit name = false) (hmut : name ≠ "mut")
    (a : Code) : Inert stem (.word name :: a) := by
  intro w rest heq
  obtain ⟨rfl⟩ := Token.word.inj (List.cons.inj heq).1
  exact ⟨Ident.isNumbered_eq_false h stem, hmut⟩

theorem filter_declaredFirst_of_inert (h : Inert stem a) :
    (declaredFirst a).filter (Ident.isNumbered stem) = [] := by
  rw [declaredFirst.eq_def]
  split
  · exact absurd rfl (h _ _ rfl).2
  · rfl
  · exact List.filter_eq_nil_iff.2 (List.forall_mem_singleton.2
      (Bool.eq_false_iff.1 (h _ _ rfl).1))
  · rfl

/-- What follows does not change which name a `let` declares. -/
theorem filter_declaredFirst_append (h : Inert stem b) :
    (declaredFirst (a ++ b)).filter (Ident.isNumbered stem) =
      (declaredFirst a).filter (Ident.isNumbered stem) := by
  match a with
  | [] => exact filter_declaredFirst_of_inert h
  | [.word name] =>
    by_cases hmut : name = "mut"
    · subst hmut
      match b with
      | .word w :: rest =>
        exact List.filter_eq_nil_iff.2 (List.forall_mem_singleton.2
          (Bool.eq_false_iff.1 (h w rest rfl).1))
      | [] | .mark _ _ :: _ | .literal _ :: _ | .group _ _ :: _ => rfl
    · rw [List.cons_append, declaredFirst_word_cons _ hmut, declaredFirst_word_cons _ hmut]
  | .word name :: t :: rest =>
    by_cases hmut : name = "mut"
    · subst hmut
      cases t <;> rfl
    · rw [List.cons_append, declaredFirst_word_cons _ hmut, declaredFirst_word_cons _ hmut]
  | .mark _ _ :: _ | .literal _ :: _ | .group _ _ :: _ => rfl

/-- The declarations of two pieces of code are those of the code in a row. -/
theorem numberedDeclared_append (h : Inert stem b) :
    (a ++ b).numberedDeclared stem = a.numberedDeclared stem ++ b.numberedDeclared stem := by
  induction a with
  | nil => rfl
  | cons t a ih =>
    have hfirst := filter_declaredFirst_append (a := a) h
    simp only [numberedDeclared] at ih ⊢
    rw [List.cons_append, declared_cons, declared_cons]
    split
    · simp only [List.filter_append, hfirst, ih, List.append_assoc]
    · simp only [List.filter_append, ih, List.append_assoc]

theorem numberedDeclared_mark_cons (c : Char) (s : Spacing) :
    numberedDeclared stem (.mark c s :: a) = a.numberedDeclared stem := rfl

theorem numberedDeclared_group_cons (d : Delimiter) (body : Code) :
    numberedDeclared stem (.group d body :: a) =
      body.numberedDeclared stem ++ a.numberedDeclared stem := by
  rw [numberedDeclared, declared_group_cons, List.filter_append]
  rfl

theorem numberedDeclared_word_cons {name : String} (h : name ≠ "let") :
    numberedDeclared stem (.word name :: a) = a.numberedDeclared stem := by
  rw [numberedDeclared, declared_word_cons _ h]
  rfl

/-- Names may follow a path. -/
theorem numberedDeclared_names {names : List String} (h : "let" ∉ names) :
    numberedDeclared stem (names.flatMap (fun name => Emit.colons ++ [.word name]) ++ a) =
      a.numberedDeclared stem := by
  induction names with
  | nil => rfl
  | cons name names ih =>
    obtain ⟨hname, hnames⟩ := not_or.1 (mt List.mem_cons.2 h)
    rw [List.flatMap_cons]
    show numberedDeclared stem (.word name :: _) = _
    rw [numberedDeclared_word_cons (Ne.symm hname)]
    exact ih hnames

/-- A call of a function that is found by its path declares what its argument declares. -/
theorem numberedDeclared_call {runtime : Code} (hruntime : runtime.Free stem)
    (names : List String) (hnames : "let" ∉ names) (argument rest : Code) :
    (Emit.call (Emit.path runtime names) argument ++ rest).numberedDeclared stem =
      argument.numberedDeclared stem ++ rest.numberedDeclared stem := by
  have hinert : Inert stem (names.flatMap (fun name => Emit.colons ++ [.word name]) ++
      (.group .paren argument :: rest)) := by
    cases names with
    | nil => exact inert_group_cons _ _ _
    | cons name names => exact inert_mark_cons _ _ _
  rw [Emit.call, Emit.path, List.append_assoc, List.append_assoc, List.singleton_append,
    numberedDeclared_append hinert, hruntime.numberedDeclared_eq_nil, List.nil_append,
    numberedDeclared_names hnames, numberedDeclared_group_cons]

end Code

/-! ## Emitted code -/

section

open Code

variable {stem : String} {runtime : Code}

theorem numbered_binding (hruntime : runtime.Free stem) {id : String}
    (hid : Ident.isNumbered stem id = true) (expr : Code) :
    (Emit.binding runtime (.word id) expr).numbered stem = id :: expr.numbered stem := by
  simp (disch := decide) [numbered, words_binding, hruntime.filter_words, hid, List.filter_cons,
    Ident.isNumbered_eq_false]

theorem numbered_effect (expr : Code) :
    (Emit.effect expr).numbered stem = expr.numbered stem := by
  rw [numbered, words_effect]
  rfl

theorem numbered_leaf (hruntime : runtime.Free stem) (s : String) :
    (Emit.leaf runtime s).numbered stem = [] := by
  simp (disch := decide) [numbered, words_leaf, hruntime.filter_words, List.filter_cons,
    Ident.isNumbered_eq_false]

theorem numbered_list (hruntime : runtime.Free stem) (items : List Code) :
    (Emit.list runtime items).numbered stem = items.flatMap (Code.numbered stem) := by
  have hitems : (items.flatMap words).filter (Ident.isNumbered stem) =
      items.flatMap (Code.numbered stem) := List.filter_flatMap
  simp (disch := decide) [numbered, words_list, hruntime.filter_words, hitems, List.filter_cons,
    Ident.isNumbered_eq_false]

theorem numbered_emitEmpty (hruntime : runtime.Free stem) :
    (Construct.emitEmpty runtime).numbered stem = [] := by
  simp (disch := decide) [numbered, words_emitEmpty, hruntime.filter_words, List.filter_cons,
    Ident.isNumbered_eq_false]

theorem numbered_emitChoice {condition : Code} (hcondition : condition.Free stem)
    (body otherwise : Code) :
    (Construct.emitChoice condition body otherwise).numbered stem =
      body.numbered stem ++ otherwise.numbered stem := by
  simp (disch := decide) [numbered, words_emitChoice, hcondition.filter_words, List.filter_cons,
    Ident.isNumbered_eq_false]

theorem numbered_emitLoop (hruntime : runtime.Free stem) {id : String}
    (hid : Ident.isNumbered stem id = true) {pattern iterator : Code} (hpattern : pattern.Free stem)
    (hiterator : iterator.Free stem) (body : Code) :
    (Construct.emitLoop runtime (.word id) pattern iterator body).numbered stem =
      id :: id :: (body.numbered stem ++ [id]) := by
  simp (disch := decide) [numbered, words_emitLoop, hruntime.filter_words,
    hpattern.filter_words, hiterator.filter_words, hid, List.filter_cons,
    Ident.isNumbered_eq_false]

/-! ## Declarations in emitted code -/

theorem numberedDeclared_binding (hruntime : runtime.Free stem) {id : String}
    (hid : Ident.isNumbered stem id = true) (expr rest : Code) :
    (Emit.binding runtime (.word id) expr ++ rest).numberedDeclared stem =
      id :: (expr.numberedDeclared stem ++ rest.numberedDeclared stem) := by
  have hcall := numberedDeclared_call hruntime ["IntoFragment", "into_fragment"] (by decide) expr
    (Emit.mark ';' ++ rest)
  have hlet : Emit.binding runtime (.word id) expr ++ rest = .word "let" :: .word id ::
      .mark '=' .alone :: (Emit.call (Emit.path runtime ["IntoFragment", "into_fragment"]) expr ++
        (Emit.mark ';' ++ rest)) := by
    simp [Emit.binding, Emit.mark, joined]
  rw [hlet, numberedDeclared, declared_let_cons,
    declaredFirst_word_cons _ (Ident.ne_of_isNumbered hid (by decide)),
    declared_word_cons _ (Ident.ne_of_isNumbered hid (by decide)), List.filter_append,
    List.filter_cons_of_pos hid, List.filter_nil, List.singleton_append]
  exact congrArg (id :: ·) hcall

theorem numberedDeclared_effect (expr rest : Code) :
    (Emit.effect expr ++ rest).numberedDeclared stem =
      expr.numberedDeclared stem ++ rest.numberedDeclared stem := by
  rw [Emit.effect, List.append_assoc]
  exact numberedDeclared_append (inert_mark_cons _ _ _)

/-- Lists declare nothing if their items do not. -/
theorem numberedDeclared_list (hruntime : runtime.Free stem) {items : List Code}
    (hitems : ∀ item ∈ items, item.numberedDeclared stem = []) :
    (Emit.list runtime items).numberedDeclared stem = [] := by
  have hcommas : (Emit.commas items).numberedDeclared stem = [] := by
    fun_induction Emit.commas items with
    | case1 => rfl
    | case2 item => exact hitems item List.mem_cons_self
    | case3 item rest _ ih =>
      obtain ⟨hitem, hrest⟩ := List.forall_mem_cons.1 hitems
      rw [List.append_assoc]
      refine (numberedDeclared_append (inert_mark_cons _ _ _)).trans ?_
      rw [hitem, List.nil_append]
      exact ih hrest
  have hcall := numberedDeclared_call hruntime ["FragmentTree", "List"] (by decide)
    (Emit.path [] ["std", "vec"] ++ Emit.mark '!' ++ [.group .bracket (Emit.commas items)]) []
  have hvec : numberedDeclared stem (Emit.path [] ["std", "vec"] ++ Emit.mark '!' ++
      [.group .bracket (Emit.commas items)]) = [] := by
    rw [Emit.path, List.nil_append, List.append_assoc, numberedDeclared_names (by decide)]
    show numberedDeclared stem [.mark '!' .alone, .group .bracket (Emit.commas items)] = []
    rw [numberedDeclared_mark_cons, numberedDeclared_group_cons, hcommas]
    rfl
  rw [List.append_nil] at hcall
  rw [Emit.list, hcall, hvec]
  rfl

theorem numberedDeclared_emitChoice {condition : Code} (hcondition : condition.Free stem)
    (body otherwise : Code) :
    (Construct.emitChoice condition [.group .brace body] otherwise).numberedDeclared stem =
      body.numberedDeclared stem ++ otherwise.numberedDeclared stem := by
  have hchoice : Construct.emitChoice condition [.group .brace body] otherwise =
      .word "if" :: (condition ++ (.group .brace body :: .word "else" :: otherwise)) := by
    simp [Construct.emitChoice]
  rw [hchoice, numberedDeclared_word_cons (by decide),
    numberedDeclared_append (inert_group_cons _ _ _), hcondition.numberedDeclared_eq_nil,
    List.nil_append, numberedDeclared_group_cons, numberedDeclared_word_cons (by decide)]

theorem numberedDeclared_emitLoop (hruntime : runtime.Free stem) {id : String}
    (hid : Ident.isNumbered stem id = true) {pattern iterator : Code} (hpattern : pattern.Free stem)
    (hiterator : iterator.Free stem) (body : Code) :
    (Construct.emitLoop runtime (.word id) pattern iterator body).numberedDeclared stem =
      id :: body.numberedDeclared stem := by
  have hid_let : id ≠ "let" := Ident.ne_of_isNumbered hid (by decide)
  -- The body of the loop, the list after it, and all that follows the name of the list.
  let inner : Code := .word id :: .mark '.' .alone :: .word "push" :: .group .paren body ::
    Emit.mark ';'
  let final : Code := Emit.call (Emit.path runtime ["FragmentTree", "List"]) [.word id]
  let after : Code := Emit.call (Emit.path [] ["std", "vec", "Vec", "new"]) [] ++
    (.mark ';' .alone :: .word "for" :: (pattern ++ (.word "in" :: (iterator ++
      (.group .brace inner :: (final ++ []))))))
  have hloop : Construct.emitLoop runtime (.word id) pattern iterator body =
      [.group .brace (.word "let" :: .word "mut" :: .word id :: .mark '=' .alone :: after)] := by
    simp [Construct.emitLoop, Emit.mark, joined, Emit.call, after, final, inner]
  have hinner : inner.numberedDeclared stem = body.numberedDeclared stem := by
    rw [numberedDeclared_word_cons hid_let, numberedDeclared_mark_cons,
      numberedDeclared_word_cons (by decide), numberedDeclared_group_cons]
    exact List.append_nil _
  have hfinal : (final ++ []).numberedDeclared stem = [] := by
    rw [numberedDeclared_call hruntime _ (by decide), numberedDeclared_word_cons hid_let]
    rfl
  have hafter : after.numberedDeclared stem = body.numberedDeclared stem := by
    rw [numberedDeclared_call free_nil _ (by decide), numberedDeclared_mark_cons,
      numberedDeclared_word_cons (by decide),
      numberedDeclared_append (inert_word_cons (by decide) (by decide) _),
      hpattern.numberedDeclared_eq_nil, numberedDeclared_word_cons (by decide),
      numberedDeclared_append (inert_group_cons _ _ _), hiterator.numberedDeclared_eq_nil,
      numberedDeclared_group_cons, hinner, hfinal]
    exact List.append_nil _
  have hlet : numberedDeclared stem
      (.word "let" :: .word "mut" :: .word id :: .mark '=' .alone :: after) =
        id :: after.numberedDeclared stem := by
    rw [numberedDeclared, declared_let_cons, declared_word_cons _ (by decide),
      declared_word_cons _ hid_let, List.filter_append]
    show [id].filter _ ++ _ = _
    rw [List.filter_cons_of_pos hid]
    rfl
  rw [hloop, numberedDeclared_group_cons, hlet, hafter]
  exact List.append_nil _

end

end TextTemplate
