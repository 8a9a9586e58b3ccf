import TextTemplate.Proofs.Code.Legible
import TextTemplate.Proofs.Code.Words

/-!
# Texts in the code of a block

The texts of a block are the only literals that its list has of its own. Each is one token of the
code that is written, and its value is the text.

- `Code.literals`, `Code.values`: the literals in a piece of code, and the texts they stand for.
- `Code.chars_infix_group` and the like: code is written where it stands.
- `Emit.Quotes`: the leaf of a text stands in a piece of code, and its literal is read as the text.
- `Emit.Spells`: a block ends in a list that has certain texts.
- `Block.spells_code`: the list of a block has the texts among its fragments.
- `Block.legible_code`: the code of a block is read back if its expressions are.
-/

namespace TextTemplate

/-! ## Literals -/

mutual

/-- The literals in a token tree, in order. -/
def Token.literals : Token → List String
  | .word _ | .mark _ _ => []
  | .literal text => [text]
  | .group _ body => Token.literalsList body

/-- The literals in token trees, in order. -/
def Token.literalsList : List Token → List String
  | [] => []
  | t :: rest => t.literals ++ Token.literalsList rest

end

namespace Code

/-- The literals in a piece of code at every depth, in order. -/
def literals (code : Code) : List String := Token.literalsList code

/-- The texts that the literals in a piece of code stand for; there is none for a number. -/
def values (code : Code) : List (Option String) :=
  code.literals.map fun l => (StringLiteral.value? l.toList).map String.ofList

section

variable (a b : Code)

theorem literals_append : literals (a ++ b) = literals a ++ literals b := by
  induction a with
  | nil => rfl
  | cons t a ih =>
    show t.literals ++ literals (a ++ b) = t.literals ++ literals a ++ literals b
    rw [ih, List.append_assoc]

@[simp] theorem values_nil : values [] = [] := rfl

@[simp] theorem values_word_cons (name : String) : values (.word name :: a) = values a := rfl

@[simp] theorem values_mark_cons (c : Char) (s : Spacing) : values (.mark c s :: a) = values a :=
  rfl

@[simp] theorem values_append : values (a ++ b) = values a ++ values b := by
  rw [values, literals_append, List.map_append]
  rfl

@[simp] theorem values_group_cons (d : Delimiter) (body : Code) :
    values (.group d body :: a) = values body ++ values a :=
  List.map_append

/-- The literal of a text stands for the text. -/
@[simp] theorem values_ofText_cons (t : String) : values (.ofText t :: a) = some t :: values a := by
  have hvalue : (StringLiteral.value? (Text.quote t).toList).map String.ofList = some t := by
    rw [StringLiteral.value?_quote, Option.map_some, String.ofList_toList]
  exact congrArg (· :: values a) hvalue

end

/-! ## Code within code -/

section

variable (a b : Code) (d : Delimiter)

theorem chars_suffix_append : b.chars <:+ chars (a ++ b) := by
  induction a with
  | nil => exact List.suffix_refl _
  | cons t a ih =>
    by_cases h : a ++ b = []
    · rw [(List.append_eq_nil_iff.1 h).2]
      exact List.nil_suffix
    · rw [List.cons_append, chars_cons t h]
      exact ih.trans (List.suffix_append _ _)

theorem chars_prefix_append : a.chars <+: chars (a ++ b) := by
  induction a with
  | nil => exact List.nil_prefix
  | cons t a ih =>
    cases a with
    | nil =>
      cases b with
      | nil => exact List.prefix_refl _
      | cons u b =>
        rw [List.singleton_append, chars_cons t (List.cons_ne_nil u b), List.append_assoc]
        exact List.prefix_append _ _
    | cons u a =>
      rw [List.cons_append, List.cons_append, chars_cons t (List.cons_ne_nil u a),
        chars_cons t (List.cons_ne_nil u (a ++ b))]
      exact (List.prefix_append_right_inj _).2 ih

/-- Code in delimiters is written between them. -/
theorem chars_infix_group : a.chars <:+: chars [.group d a] := by
  cases d with
  | paren => exact List.infix_append ['('] a.chars [')']
  | bracket => exact List.infix_append ['['] a.chars [']']
  | brace =>
    cases a with
    | nil => exact List.nil_infix
    | cons t a => exact List.infix_append ['{', ' '] (chars (t :: a)) [' ', '}']

/-- A call ends with its argument. -/
theorem chars_suffix_call (function argument : Code) :
    argument.chars ++ [')'] <:+ chars (Emit.call function argument) :=
  (List.suffix_append ['('] _).trans (chars_suffix_append function [.group .paren argument])

end

end Code

namespace Emit

open Code

variable {runtime : Code}

/-! ## Literals of emitted code -/

theorem values_path (front : Code) (names : List String) :
    (path front names).values = front.values := by
  have hnames : values (names.flatMap fun name => colons ++ [.word name]) = [] := by
    induction names with
    | nil => rfl
    | cons name names ih =>
      rw [List.flatMap_cons, values_append, ih]
      rfl
  rw [path, values_append, hnames, List.append_nil]

theorem values_call (function argument : Code) :
    (call function argument).values = function.values ++ argument.values := by
  simp [call]

/-- The tree of a text has one literal, besides those of the path to the runtime. -/
theorem values_leaf (t : String) : (leaf runtime t).values = runtime.values ++ [some t] := by
  simp [leaf, values_call, values_path]

theorem values_commas (items : List Code) : (commas items).values = items.flatMap values := by
  fun_induction commas items with
  | case1 => rfl
  | case2 item => simp
  | case3 item rest _ ih =>
    rw [values_append, values_append, ih, List.flatMap_cons, List.append_assoc]
    rfl

end Emit

/-! ## Texts of a list -/

/-- The text that a fragment is, if it is one. -/
def Fragment.text? : Fragment → Option String
  | text s => some s
  | ref _ => none

namespace Emit

open Code

/-- The leaf of a text is written in a piece of code. The literal that ends it, read where it
stands there, is one token, and its value is the text. -/
def Quotes (runtime code : Code) (t : String) : Prop :=
  ∃ front opening back : List Char, ∃ literal : String,
    code.chars = front ++ (leaf runtime t).chars ++ back ∧
    (leaf runtime t).chars = opening ++ literal.toList ++ [')', ')'] ∧
    Lexeme.next? (literal.toList ++ ([')', ')'] ++ back)) =
      some (.tokens [.literal literal], [')', ')'] ++ back) ∧
    StringLiteral.value? literal.toList = some t.toList

/-- A block ends in a list whose items have certain texts, in order, as their only literals besides
those of the path to the runtime. Each text is read where it stands, and the list is read back from
what is written, if the path is. -/
def Spells (runtime : Code) (texts : List String) (block : Code) : Prop :=
  (∀ t ∈ texts, Quotes runtime block t) ∧
    ∃ front items, block = front ++ list runtime [items] ∧
      items.values = texts.flatMap (fun t => runtime.values ++ [some t]) ∧
      (runtime.Legible → ofChars? (list runtime [items]).chars = some (list runtime [items]))

variable {runtime : Code}

/-- The leaf of a text is read wherever it stands. -/
theorem quotes_of_infix {code : Code} {t : String} (h : (leaf runtime t).chars <:+: code.chars) :
    Quotes runtime code t := by
  obtain ⟨front, back, hcode⟩ := h
  obtain ⟨opening, hleaf⟩ : ∃ opening,
      opening ++ (Text.quote t).toList ++ [')', ')'] = (leaf runtime t).chars := by
    -- The leaf is a call within a call, and so ends with two delimiters.
    obtain ⟨inner, hinner⟩ := chars_suffix_call (path [] ["std", "borrow", "Cow", "Borrowed"])
      [.ofText t]
    obtain ⟨outer, houter⟩ := chars_suffix_call (path runtime ["FragmentTree", "Text"])
      (call (path [] ["std", "borrow", "Cow", "Borrowed"]) [.ofText t])
    refine ⟨outer ++ inner, ?_⟩
    rw [leaf, ← houter, ← hinner]
    simp [Token.ofText, Token.chars]
  have hnext := Lexeme.next?_quote t
    (Lexeme.starts_of_bounds (Lexeme.bounds_cons (c := ')') (by decide) ([')'] ++ back)))
  have hvalue := StringLiteral.value?_quote t
  exact ⟨front, opening, back, Text.quote t, hcode.symm, hleaf.symm, hnext, hvalue⟩

theorem Quotes.mono {a b : Code} {t : String} (h : Quotes runtime a t)
    (hab : a.chars <:+: b.chars) : Quotes runtime b t := by
  obtain ⟨front, _, back, _, hchars, -⟩ := h
  exact quotes_of_infix (List.IsInfix.trans ⟨front, back, hchars.symm⟩ hab)

/-- Each item is written in its list. -/
theorem chars_infix_commas {item : Code} {items : List Code} (h : item ∈ items) :
    item.chars <:+: (commas items).chars := by
  fun_induction commas items with
  | case1 => cases h
  | case2 _ =>
    obtain rfl := List.mem_singleton.1 h
    exact List.infix_refl _
  | case3 first rest _ ih =>
    rcases List.mem_cons.1 h with rfl | h
    · rw [List.append_assoc]
      exact (chars_prefix_append _ _).isInfix
    · exact (ih h).trans (chars_suffix_append _ _).isInfix

theorem chars_infix_list (runtime : Code) {item : Code} {items : List Code} (h : item ∈ items) :
    item.chars <:+: (list runtime items).chars :=
  (chars_infix_commas h).trans <| (chars_infix_group _ .bracket).trans <|
    (chars_suffix_append _ _).isInfix.trans <| (List.prefix_append _ [')']).isInfix.trans
      (chars_suffix_call _ _).isInfix

/-! ## Emitted code is read back -/

/-- The words that are written into code, whatever it is made from. -/
def vocabulary : List String :=
  ["let", "mut", "if", "else", "for", "in", "push", "std", "vec", "Vec", "new", "borrow", "Cow",
    "Borrowed", "FragmentTree", "Text", "List", "empty", "IntoFragment", "into_fragment"]

theorem isPlain_of_mem_vocabulary : ∀ name ∈ vocabulary, Word.isPlain name.toList = true := by
  decide +kernel

theorem legible_word (name : String) (h : name ∈ vocabulary) : Legible [.word name] :=
  .word (isPlain_of_mem_vocabulary name h)

theorem legible_path {front : Code} (h : front.Legible) (names : List String)
    (hnames : ∀ name ∈ names, name ∈ vocabulary) : (path front names).Legible :=
  h.path fun name hname => isPlain_of_mem_vocabulary name (hnames name hname)

theorem legible_call {function argument : Code} (hfunction : function.Legible)
    (hargument : argument.Legible) : (call function argument).Legible :=
  hfunction.append (hargument.group .paren)

theorem legible_leaf (hruntime : runtime.Legible) (t : String) : (leaf runtime t).Legible :=
  legible_call (legible_path hruntime _ (by decide))
    (legible_call (legible_path .nil _ (by decide)) (.ofText t))

theorem legible_commas {items : List Code} (h : ∀ item ∈ items, item.Legible) :
    (commas items).Legible := by
  fun_induction commas items with
  | case1 => exact .nil
  | case2 item => exact h item List.mem_cons_self
  | case3 item rest _ ih =>
    obtain ⟨hitem, hrest⟩ := List.forall_mem_cons.1 h
    exact (hitem.append (.mark (by decide))).append (ih hrest)

theorem legible_list {items : List Code} (hruntime : runtime.Legible)
    (h : ∀ item ∈ items, item.Legible) : (list runtime items).Legible :=
  legible_call (legible_path hruntime _ (by decide)) <|
    ((legible_path .nil _ (by decide)).append (.mark (by decide))).append
      ((legible_commas h).group .bracket)

theorem legible_effect {expr : Code} (h : expr.Legible) : (effect expr).Legible :=
  h.append (.mark (by decide))

theorem legible_binding {name : String} {expr : Code} (hruntime : runtime.Legible)
    (hname : Word.isPlain name.toList = true) (h : expr.Legible) :
    (binding runtime (.word name) expr).Legible :=
  have hvalue := legible_call (legible_path hruntime _ (by decide)) h
  ((((legible_word "let" (by decide)).append (.word hname)).append
    (.mark (by decide))).append hvalue).append (.mark (by decide))

end Emit

/-! ## Blocks -/

namespace Block

open Emit

variable {runtime : Code} {b : Block Code}

/-- The fragments of a block are read back if the names in them are words. -/
theorem legible_fragment (hruntime : runtime.Legible)
    (hnames : ∀ id ∈ b.references, Word.isPlain id.name.toList = true) :
    ∀ item ∈ b.fragments.map (Fragment.code runtime), item.Legible := by
  refine List.forall_mem_map.2 fun f hf => ?_
  cases f with
  | text t => exact legible_leaf hruntime t
  | ref id => exact .word (hnames id (List.mem_filterMap.2 ⟨_, hf, rfl⟩))

/-- **The code of a block is read back** from what is written if its expressions are. -/
theorem legible_code (hruntime : runtime.Legible)
    (hnames : ∀ id ∈ b.bindings ++ b.references, Word.isPlain id.name.toList = true)
    (hexprs : ∀ s ∈ b.statements, s.expr.Legible) : (b.code runtime).Legible := by
  obtain ⟨hbindings, hreferences⟩ := List.forall_mem_append.1 hnames
  have hstatements : ∀ s ∈ b.statements, (s.code runtime).Legible := by
    intro s hs
    cases s with
    | bind id e =>
      exact legible_binding hruntime (hbindings id (List.mem_filterMap.2 ⟨_, hs, rfl⟩))
        (hexprs _ hs)
    | effect e => exact legible_effect (hexprs _ hs)
  exact (Code.Legible.flatMap hstatements).append
    (legible_list hruntime (legible_fragment hruntime hreferences))

/-- The literals of the items of a block are the texts among its fragments. -/
theorem values_fragments (fragments : List Fragment) :
    (commas (fragments.map (Fragment.code runtime))).values =
      (fragments.filterMap Fragment.text?).flatMap fun t => runtime.values ++ [some t] := by
  rw [values_commas]
  induction fragments with
  | nil => rfl
  | cons f rest ih =>
    cases f with
    | text t =>
      show (leaf runtime t).values ++ (rest.map (Fragment.code runtime)).flatMap Code.values = _
      rw [values_leaf, ih]
      rfl
    | ref id => exact ih

/-- **The list of a block has the texts among its fragments**, in order. -/
theorem spells_code (runtime : Code)
    (hnames : ∀ id ∈ b.references, Word.isPlain id.name.toList = true) :
    Spells runtime (b.fragments.filterMap Fragment.text?) (b.code runtime) := by
  refine ⟨fun t ht => ?_, b.statements.flatMap (Statement.code runtime),
    commas (b.fragments.map (Fragment.code runtime)), rfl, values_fragments _, fun hruntime => ?_⟩
  · obtain ⟨f, hf, hft⟩ := List.mem_filterMap.1 ht
    cases f with
    | ref id => cases hft
    | text s =>
      obtain rfl : s = t := Option.some.inj hft
      have hleaf := chars_infix_list runtime (List.mem_map_of_mem (f := Fragment.code runtime) hf)
      exact quotes_of_infix (hleaf.trans (Code.chars_suffix_append _ _).isInfix)
  · exact (legible_list hruntime (legible_fragment hruntime hnames)).ofChars?_chars

end Block

end TextTemplate
