import TextTemplate.Expansion.Construct
import TextTemplate.Proofs.Code.Quoting
import TextTemplate.Proofs.Program.Written

/-!
# Reading the code of a template

The code that a template becomes uses few forms. Each of them is read here on its own, as far as the
pieces of code inside of it, which are not looked at.

- `Code.after?`: what follows a given piece of code.
- `Form`: the forms of an expression.
- `Step`: the forms of a statement.
- `Final`: the forms of the expression at the end of a block; `items?` reads the items of a list.
- `read_…`, `read?_…`: what is emitted is read as what it was emitted for.
-/

namespace TextTemplate

namespace Code

/-- What follows a piece of code at the front of another one. -/
def after? (front code : Code) : Option Code :=
  if code.take front.length = front then some (code.drop front.length) else none

theorem after?_append (front rest : Code) : after? front (front ++ rest) = some rest := by
  simp [after?]

theorem eq_append_of_after? {front code rest : Code} (h : after? front code = some rest) :
    code = front ++ rest := by
  unfold after? at h
  split at h
  · rename_i hfront
    cases h
    exact (List.take_append_drop front.length code).symm.trans (by rw [hfront])
  · cases h

theorem size_word (a : String) : (Token.word a).size = 1 := rfl

theorem size_mark (c : Char) (s : Spacing) : (Token.mark c s).size = 1 := rfl

theorem size_group (d : Delimiter) (body : Code) : (Token.group d body).size = 1 + body.size := rfl

theorem length_of_after? {front code rest : Code} (h : after? front code = some rest) :
    rest.length ≤ code.length := by
  rw [eq_append_of_after? h, List.length_append]
  exact Nat.le_add_left _ _

end Code

namespace Emitted

open Emit Code

/-! ## Expressions -/

/-- The forms of an expression. -/
inductive Form
  | block (body : Code)
  | choice (condition body otherwise : Code)
  | atom (c : Code)

/-- The form of an expression. What is neither a block nor a choice is an atom. -/
def Form.read : Code → Form
  | [.group .brace body] => block body
  | .word "if" :: c :: .group .brace body :: .word "else" :: otherwise => choice [c] body otherwise
  | code => atom code

namespace Form

@[simp] theorem read_block (body : Code) : read [.group .brace body] = block body := rfl

@[simp] theorem read_choice (c : Token) (body otherwise : Code) :
    read (Construct.emitChoice [c] [.group .brace body] otherwise) =
      choice [c] body otherwise := rfl

@[simp] theorem read_word (a : String) : read [.word a] = atom [.word a] := by
  simp [read]

/-- The code inside of an expression that is read further. -/
def parts : Form → List Code
  | block body => [body]
  | choice _ body otherwise => [body, otherwise]
  | atom _ => []

/-- The parts of an expression are smaller than it. -/
theorem size_of_mem_parts {code part : Code} (h : part ∈ (read code).parts) :
    part.size < code.size := by
  revert h
  fun_cases read code with
  | case1 body =>
    intro h
    obtain rfl := List.mem_singleton.1 h
    simp only [size_cons, size_group]
    omega
  | case2 c body otherwise =>
    intro h
    simp only [parts, List.mem_cons, List.not_mem_nil, or_false] at h
    simp only [size_cons, size_group]
    rcases h with rfl | rfl <;> omega
  | case3 => exact nofun

end Form

/-! ## Statements -/

/-- The forms of a statement. -/
inductive Step
  /-- The tree of an expression gets a name. -/
  | bind (id : Ident) (e : Code)
  /-- A list without items gets a name. -/
  | list (id : Ident)
  /-- The tree of a block is added to a list for each item of an iterator. -/
  | each (pattern iterator : Code) (id : Ident) (body : Code)
  /-- Code is run. -/
  | effect (c : Code)

namespace Step

/-- What stands after the name of a list without items. -/
def newList : Code := mark '=' ++ call (path [] ["std", "vec", "Vec", "new"]) [] ++ mark ';'

/-- The statement at the front of a block, and the rest. -/
def read? (runtime : Code) : Code → Option (Step × Code)
  | c :: .mark ';' .alone :: rest => some (effect [c], rest)
  | .word "let" :: .word "mut" :: .word id :: rest =>
    match after? newList rest with
    | some rest => some (list ⟨id⟩, rest)
    | none => none
  | .word "let" :: .word id :: .mark '=' .alone :: rest =>
    match after? (path runtime ["IntoFragment", "into_fragment"]) rest with
    | some (.group .paren e :: .mark ';' .alone :: rest) => some (bind ⟨id⟩ e, rest)
    | _ => none
  | .word "for" :: pattern :: .word "in" :: iterator :: .group .brace
      [.word id, .mark '.' .alone, .word "push", .group .paren body, .mark ';' .alone] :: rest =>
    some (each [pattern] [iterator] ⟨id⟩ body, rest)
  | _ => none

@[simp] theorem read?_effect (runtime : Code) (a : String) (rest : Code) :
    read? runtime (Emit.effect [.word a] ++ rest) = some (effect [.word a], rest) := rfl

@[simp] theorem read?_binding (runtime : Code) (id : String) (e rest : Code) :
    read? runtime (binding runtime (.word id) e ++ rest) = some (bind ⟨id⟩ e, rest) := by
  have h : binding runtime (.word id) e ++ rest =
      .word "let" :: .word id :: .mark '=' .alone ::
        (path runtime ["IntoFragment", "into_fragment"] ++
          .group .paren e :: .mark ';' .alone :: rest) := by
    simp [binding, mark, joined, call]
  rw [h, read?, after?_append]
  rfl

@[simp] theorem read?_newList (runtime : Code) (id : String) (rest : Code) :
    read? runtime (.word "let" :: .word "mut" :: .word id :: newList ++ rest) =
      some (list ⟨id⟩, rest) := by
  show read? runtime (.word "let" :: .word "mut" :: .word id :: (newList ++ rest)) = _
  rw [read?, after?_append]

@[simp] theorem read?_each (runtime : Code) (p i id : String) (body rest : Code) :
    read? runtime (.word "for" :: .word p :: .word "in" :: .word i :: .group .brace
        (.word id :: mark '.' ++ call [.word "push"] body ++ mark ';') :: rest) =
      some (each [.word p] [.word i] ⟨id⟩ body, rest) := by
  simp [read?, mark, joined, call]

/-- The code inside of a statement that is read further. -/
def part : Step → Code
  | bind _ e => e
  | each _ _ _ body => body
  | list _ | effect _ => []

/-- A statement stands at the front of the block, and what is read further is inside of it. -/
theorem exists_of_read? {runtime code rest : Code} {step : Step}
    (h : read? runtime code = some (step, rest)) :
    ∃ front : Code, code = front ++ rest ∧ step.part.size < front.size := by
  unfold read? at h
  split at h
  · rename_i c rest
    cases h
    refine ⟨[c, .mark ';' .alone], rfl, ?_⟩
    simp only [part, size_cons, size_nil, size_mark]
    omega
  · rename_i id rest
    split at h
    · rename_i hrest
      cases h
      refine ⟨.word "let" :: .word "mut" :: .word id :: newList, ?_, ?_⟩
      · rw [eq_append_of_after? hrest]
        rfl
      · simp only [part, size_cons, size_nil, size_word]
        omega
    · cases h
  · rename_i id rest
    split at h
    · rename_i e rest hrest
      cases h
      refine ⟨.word "let" :: .word id :: .mark '=' .alone ::
        (path runtime ["IntoFragment", "into_fragment"] ++ [.group .paren e, .mark ';' .alone]),
        ?_, ?_⟩
      · rw [eq_append_of_after? hrest]
        simp
      · simp only [part, size_cons, size_append, size_word, size_group]
        omega
    · cases h
  · rename_i p i id body rest _
    cases h
    refine ⟨[.word "for", p, .word "in", i, .group .brace
      [.word id, .mark '.' .alone, .word "push", .group .paren body, .mark ';' .alone]], rfl, ?_⟩
    simp only [part, size_cons, size_word, size_group]
    omega
  · cases h

/-- What is read further is smaller than the block. -/
theorem size_of_read? {runtime code rest : Code} {step : Step}
    (h : read? runtime code = some (step, rest)) :
    rest.size < code.size ∧ step.part.size < code.size := by
  obtain ⟨front, rfl, hpart⟩ := exists_of_read? h
  rw [size_append]
  omega

/-- A statement is not empty. -/
theorem length_of_read? {runtime code rest : Code} {step : Step}
    (h : read? runtime code = some (step, rest)) : rest.length < code.length := by
  obtain ⟨front, rfl, hpart⟩ := exists_of_read? h
  cases front with
  | nil => exact absurd hpart (Nat.not_lt_zero _)
  | cons t front =>
    rw [List.length_append, List.length_cons]
    omega

end Step

/-! ## The end of a block -/

/-- The forms of the expression at the end of a block. -/
inductive Final
  /-- The list of texts and values. -/
  | items (fragments : List Fragment)
  /-- The list that has a name. -/
  | collected (id : Ident)
  /-- The tree without text. -/
  | empty

/-- The text of a leaf, from what its constructor is called with. -/
def text? (argument : Code) : Option String :=
  match after? (path [] ["std", "borrow", "Cow", "Borrowed"]) argument with
  | some [.group .paren [.literal l]] => (StringLiteral.value? l.toList).map String.ofList
  | _ => none

/-- What comes after a comma, if anything does. -/
def comma? : Code → Option Code
  | [] => some []
  | .mark ',' .alone :: rest => some rest
  | _ => none

theorem length_comma? {code rest : Code} (h : comma? code = some rest) :
    rest.length ≤ code.length := by
  revert h
  fun_cases comma? code <;> simp_all

/-- One item of a list and what comes before it, read from its last token: a text ends with a group,
and a value is one word. -/
def item? (runtime : Code) : Code → Option (Fragment × Code)
  | .word id :: before => some (.ref ⟨id⟩, before)
  | .group .paren argument :: before =>
    match text? argument, after? (path runtime ["FragmentTree", "Text"]).reverse before with
    | some s, some before => some (.text s, before)
    | _, _ => none
  | _ => none

/-- An item is not empty. -/
theorem length_item? {runtime code before : Code} {f : Fragment}
    (h : item? runtime code = some (f, before)) : before.length < code.length := by
  unfold item? at h
  split at h
  · cases h
    exact Nat.lt_succ_self _
  · split at h
    · rename_i hbefore
      cases h
      exact Nat.lt_succ_of_le (length_of_after? hbefore)
    · cases h
  · cases h

/-- The items of a list, from the last one to the first; those that come after are given. -/
def items? (runtime : Code) (reversed : Code) (fragments : List Fragment) :
    Option (List Fragment) :=
  match reversed with
  | [] => some fragments
  | t :: rest =>
    match _h : item? runtime (t :: rest) with
    | none => none
    | some (f, before) =>
      match _h' : comma? before with
      | none => none
      | some before => items? runtime before (f :: fragments)
termination_by reversed.length
decreasing_by exact Nat.lt_of_le_of_lt (length_comma? _h') (length_item? _h)

/-- An item and the comma before it are read off the end. -/
theorem items?_of_item? {runtime code before front : Code} {f : Fragment}
    (h : item? runtime code = some (f, before)) (h' : comma? before = some front)
    (fragments : List Fragment) :
    items? runtime code fragments = items? runtime front (f :: fragments) := by
  cases code with
  | nil => cases h
  | cons t rest =>
    rw [items?]
    split
    · rename_i hnone
      rw [h] at hnone
      cases hnone
    · rename_i hsome
      rw [h] at hsome
      cases hsome
      split
      · rename_i hnone
        rw [h'] at hnone
        cases hnone
      · rename_i hsome
        rw [h'] at hsome
        cases hsome
        rfl

/-- The code of a fragment is an item. -/
theorem item?_code (runtime : Code) (f : Fragment) (before : Code) :
    item? runtime ((f.code runtime).reverse ++ before) = some (f, before) := by
  cases f with
  | ref id => rfl
  | text s =>
    have hc : (leaf runtime s).reverse ++ before =
        .group .paren (call (path [] ["std", "borrow", "Cow", "Borrowed"]) [.ofText s]) ::
          ((path runtime ["FragmentTree", "Text"]).reverse ++ before) := by
      simp [leaf, call]
    have ht : text? (call (path [] ["std", "borrow", "Cow", "Borrowed"]) [.ofText s]) =
        some s := by
      rw [text?, call, after?_append]
      show (StringLiteral.value? (Text.quote s).toList).map String.ofList = _
      rw [StringLiteral.value?_quote, Option.map_some, String.ofList_toList]
    rw [Fragment.code, hc, item?, ht, after?_append]

/-- Items are read off the end of a list that begins with others. -/
theorem items?_append {runtime front back : Code} {fs : List Fragment} (hne : fs ≠ [])
    (hback : comma? back = some front) (after : List Fragment) :
    items? runtime ((commas (fs.map (Fragment.code runtime))).reverse ++ back) after =
      items? runtime front (fs ++ after) := by
  induction fs generalizing back front with
  | nil => exact absurd rfl hne
  | cons f fs ih =>
    have hitem := item?_code runtime f back
    cases fs with
    | nil => exact items?_of_item? hitem hback after
    | cons g gs =>
      have hcode : (commas ((f :: g :: gs).map (Fragment.code runtime))).reverse ++ back =
          (commas ((g :: gs).map (Fragment.code runtime))).reverse ++
            (.mark ',' .alone :: ((f.code runtime).reverse ++ back)) := by
        simp [commas, mark, joined]
      rw [hcode, ih (List.cons_ne_nil g gs) rfl]
      exact items?_of_item? hitem hback (g :: gs ++ after)

/-- The items between commas are the fragments. -/
theorem items?_commas (runtime : Code) (fs : List Fragment) :
    items? runtime (commas (fs.map (Fragment.code runtime))).reverse [] = some fs := by
  cases fs with
  | nil => rw [List.map_nil, commas, List.reverse_nil, items?]
  | cons f fs =>
    have hback : comma? [] = some [] := rfl
    rw [← List.append_nil (commas _).reverse, items?_append (List.cons_ne_nil f fs) hback, items?,
      List.append_nil]

namespace Final

/-- The expression that makes up the rest of a block, if the block has no more statements. -/
def read? (runtime code : Code) : Option Final :=
  match after? (path runtime ["FragmentTree", "List"]) code with
  | some [.group .paren [.word id]] => some (collected ⟨id⟩)
  | some [.group .paren argument] =>
    match after? (path [] ["std", "vec"] ++ mark '!') argument with
    | some [.group .bracket inner] => (items? runtime inner.reverse []).map items
    | _ => none
  | _ =>
    if code = call (path runtime ["FragmentTree", "empty"]) [] then some empty else none

/-- The number of tokens at the end of a block. -/
def width (runtime : Code) : Nat := runtime.length + 7

theorem length_call (runtime : Code) (a b : String) (argument : Code) :
    (call (path runtime [a, b]) argument).length = width runtime := by
  simp [call, path, colons, joined, width]

/-- A block that is longer than its end has statements. -/
theorem read?_eq_none {runtime code : Code} (h : width runtime < code.length) :
    read? runtime code = none := by
  have hlist : ∀ t, after? (path runtime ["FragmentTree", "List"]) code ≠ some [t] := by
    intro t ht
    have hcode := congrArg List.length (eq_append_of_after? ht)
    have hwidth := length_call runtime "FragmentTree" "List" []
    rw [call, List.length_append, List.length_singleton] at hwidth
    rw [List.length_append, List.length_singleton] at hcode
    omega
  have hempty : code ≠ call (path runtime ["FragmentTree", "empty"]) [] := by
    rintro rfl
    rw [length_call] at h
    exact Nat.lt_irrefl _ h
  unfold read?
  split
  · rename_i ht
    exact absurd ht (hlist _)
  · rename_i ht
    exact absurd ht (hlist _)
  · exact if_neg hempty

theorem read?_list (runtime : Code) (fs : List Fragment) :
    read? runtime (Emit.list runtime (fs.map (Fragment.code runtime))) = some (items fs) := by
  have h := after?_append (path [] ["std", "vec"] ++ mark '!')
    [.group .bracket (commas (fs.map (Fragment.code runtime)))]
  rw [Emit.list, call, read?, after?_append]
  show (match after? (path [] ["std", "vec"] ++ mark '!') (path [] ["std", "vec"] ++ mark '!' ++
      [.group .bracket (commas (fs.map (Fragment.code runtime)))]) with
    | some [.group .bracket inner] => (items? runtime inner.reverse []).map items
    | _ => none) = _
  rw [h]
  show (items? runtime (commas (fs.map (Fragment.code runtime))).reverse []).map items = _
  rw [items?_commas, Option.map_some]

theorem read?_collected (runtime : Code) (id : String) :
    read? runtime (call (path runtime ["FragmentTree", "List"]) [.word id]) =
      some (collected ⟨id⟩) := by
  rw [call, read?, after?_append]

theorem read?_empty (runtime : Code) :
    read? runtime (call (path runtime ["FragmentTree", "empty"]) []) = some empty := by
  have h : after? (path runtime ["FragmentTree", "List"])
      (call (path runtime ["FragmentTree", "empty"]) []) = none := by
    rw [Option.eq_none_iff_forall_ne_some]
    intro rest hrest
    have hcode := eq_append_of_after? hrest
    simp [path, colons, joined, call] at hcode
  rw [read?, h]
  exact if_pos rfl

end Final

end Emitted

end TextTemplate
