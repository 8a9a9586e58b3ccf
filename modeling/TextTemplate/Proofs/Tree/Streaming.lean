import TextTemplate.Proofs.Program.Action
import TextTemplate.Proofs.Tree.Visit
import TextTemplate.Tree.Stream

/-!
# Trees written to a sink that may refuse

A tree is written leaf by leaf while its leaves are still being looked for. That is the same as if
all leaves were known before: they are handed over from left to right up to the first that is
refused, and nothing of the others reaches the sink.

- `Action.Takes`, `Action.Refuses`: how a run over some items goes on, item by item.
- `on_forM_eq_ok_iff`, `on_forM_eq_error_iff`: when a run succeeds, and with which error it fails.
- `Action.Keeps`: a sink that adds what it takes as a whole, and of what it refuses nothing.
- `Action.HoldsFront`: what such a sink holds after a run.
- `Action.Streams`: all that is said of a run.
- `TextBuffer.keeps_write`: a buffer with limited room is such a sink.
- `writeOf_eq_forM`: the leaves of a stack are handed over as if they were a list.
- `Tree.writeTo_until_refused`: the main statement.
-/

namespace TextTemplate

/-! ## Runs over a list of items -/

namespace Action

variable {σ ε α β : Type}

/-- From one state to another, an action takes some items, one after the other. -/
inductive Takes (a : α → Action σ ε Unit) : σ → List α → σ → Prop
  | nil (s : σ) : Takes a s [] s
  | cons {s mid s' : σ} {x : α} {xs : List α} (first : (a x).on s = (.ok (), mid))
      (rest : Takes a mid xs s') : Takes a s (x :: xs) s'

/-- An action takes some of the items and refuses the next one, with an error. -/
def Refuses (a : α → Action σ ε Unit) (s : σ) (xs : List α) (e : ε) (s' : σ) : Prop :=
  ∃ taken x left mid, xs = taken ++ x :: left ∧ Takes a s taken mid ∧
    (a x).on mid = (.error e, s')

section

variable {a : α → Action σ ε Unit} {s s' mid : σ} {x : α} {xs : List α} {e : ε}

theorem takes_nil_iff : Takes a s [] s' ↔ s' = s := by
  constructor
  · rintro ⟨⟩
    rfl
  · rintro rfl
    exact .nil s'

/-- What is left to be taken after the first item. -/
theorem takes_cons_iff :
    Takes a s (x :: xs) s' ↔ ∃ mid, (a x).on s = (.ok (), mid) ∧ Takes a mid xs s' := by
  constructor
  · rintro ⟨⟩
    exact ⟨_, ‹_›, ‹_›⟩
  · rintro ⟨mid, hfirst, hrest⟩
    exact .cons hfirst hrest

theorem not_refuses_nil : ¬ Refuses a s [] e s' := by
  rintro ⟨taken, x, left, mid, hxs, -, -⟩
  exact List.append_ne_nil_of_right_ne_nil taken (List.cons_ne_nil x left) hxs.symm

/-- Either the first item is refused, or it is taken and a later one is refused. -/
theorem refuses_cons_iff : Refuses a s (x :: xs) e s' ↔
    (a x).on s = (.error e, s') ∨ ∃ mid, (a x).on s = (.ok (), mid) ∧ Refuses a mid xs e s' := by
  constructor
  · rintro ⟨taken, y, left, last, hxs, htaken, hy⟩
    rcases List.cons_eq_append_iff.1 hxs with ⟨rfl, hleft⟩ | ⟨taken, rfl, rfl⟩
    · obtain ⟨rfl, rfl⟩ := List.cons.inj hleft
      rw [takes_nil_iff] at htaken
      subst htaken
      exact .inl hy
    · obtain ⟨mid, hfirst, hrest⟩ := takes_cons_iff.1 htaken
      exact .inr ⟨mid, hfirst, taken, y, left, last, rfl, hrest, hy⟩
  · rintro (hx | ⟨mid, hfirst, taken, y, left, last, rfl, htaken, hy⟩)
    · exact ⟨[], x, xs, s, rfl, .nil s, hx⟩
    · exact ⟨x :: taken, y, left, last, rfl, .cons hfirst htaken, hy⟩

theorem on_forM_cons (a : α → Action σ ε Unit) (x : α) (xs : List α) (s : σ) :
    (forM (x :: xs) a).on s = match (a x).on s with
      | (.error e, s') => (.error e, s')
      | (.ok _, s') => (forM xs a).on s' := by
  rw [List.forM_cons, on_bind]
  rcases (a x).on s with ⟨_ | _, _⟩ <;> rfl

/-- A run succeeds if all items are taken. -/
theorem on_forM_eq_ok_iff : (forM xs a).on s = (.ok (), s') ↔ Takes a s xs s' := by
  induction xs generalizing s with
  | nil =>
    rw [takes_nil_iff]
    exact ⟨fun h => (Prod.mk.inj h).2.symm, fun h => by rw [h]; rfl⟩
  | cons x xs ih =>
    rw [on_forM_cons, takes_cons_iff]
    rcases (a x).on s with ⟨e | ⟨⟩, mid⟩
    · simp
    · simp [ih]

/-- A run fails with the error of the first item that is refused. -/
theorem on_forM_eq_error_iff : (forM xs a).on s = (.error e, s') ↔ Refuses a s xs e s' := by
  induction xs generalizing s with
  | nil =>
    constructor
    · rintro ⟨⟩
    · exact fun h => absurd h not_refuses_nil
  | cons x xs ih =>
    rw [on_forM_cons, refuses_cons_iff]
    rcases (a x).on s with ⟨e' | ⟨⟩, mid⟩
    · simp
    · simp [ih]

/-- A run over items that were made from others. -/
theorem forM_map {γ : Type} (f : γ → α) (a : α → Action σ ε Unit) (xs : List γ) :
    forM (xs.map f) a = forM xs fun x => a (f x) := by
  induction xs with
  | nil => rfl
  | cons x xs ih => rw [List.map_cons, List.forM_cons, List.forM_cons, ih]

end

/-! ## What the sink holds -/

/-- The content of an item that is taken is added to what the sink holds; an item that is refused
changes nothing there. -/
def Keeps (held : σ → List β) (content : α → List β) (a : α → Action σ ε Unit) : Prop :=
  ∀ x s, held ((a x).on s).2 = match ((a x).on s).1 with
    | .ok _ => held s ++ content x
    | .error _ => held s

/-- After a run the sink holds what it held before, and the content of the items in front. These are
all items if the run succeeds; if it fails, the item behind them was refused. -/
def HoldsFront (held : σ → List β) (content : α → List β) (a : α → Action σ ε Unit) (s : σ)
    (xs : List α) (result : Except ε Unit × σ) : Prop :=
  ∃ front back, xs = front ++ back ∧ held result.2 = held s ++ front.flatMap content ∧
    (result.1 = .ok () → back = []) ∧
    ∀ e, result.1 = .error e → ∃ refused rest mid, back = refused :: rest ∧ Takes a s front mid ∧
      held mid = held result.2 ∧ (a refused).on mid = (.error e, result.2)

section

variable {held : σ → List β} {content : α → List β} {a : α → Action σ ε Unit} {s s' : σ}
  {xs : List α}

theorem held_of_takes (hkeeps : Keeps held content a) (h : Takes a s xs s') :
    held s' = held s ++ xs.flatMap content := by
  induction h with
  | nil s => rw [List.flatMap_nil, List.append_nil]
  | @cons s mid s' x xs first rest ih =>
    have hmid := hkeeps x s
    rw [first] at hmid
    rw [ih, hmid, List.flatMap_cons, List.append_assoc]

theorem holdsFront_forM (hkeeps : Keeps held content a) (s : σ) (xs : List α) :
    HoldsFront held content a s xs ((forM xs a).on s) := by
  rcases hresult : (forM xs a).on s with ⟨e | ⟨⟩, s'⟩
  · obtain ⟨taken, x, left, mid, hxs, htaken, hx⟩ := on_forM_eq_error_iff.1 hresult
    have hheld : held mid = held s' := by
      have hs' := hkeeps x mid
      rw [hx] at hs'
      exact hs'.symm
    refine ⟨taken, x :: left, hxs, ?_, nofun, ?_⟩
    · rw [← hheld, held_of_takes hkeeps htaken]
    · rintro e' ⟨⟩
      exact ⟨x, left, mid, rfl, htaken, hheld, hx⟩
  · have htaken := on_forM_eq_ok_iff.1 hresult
    exact ⟨xs, [], (List.append_nil xs).symm, held_of_takes hkeeps htaken, fun _ => rfl, nofun⟩

/-- A sink never holds anything but a front of the whole content. -/
theorem HoldsFront.isPrefix {result : Except ε Unit × σ}
    (h : HoldsFront held content a s xs result) :
    held result.2 <+: held s ++ xs.flatMap content := by
  obtain ⟨front, back, rfl, hheld, -, -⟩ := h
  rw [hheld, List.flatMap_append, ← List.append_assoc]
  exact List.prefix_append _ _

/-- It holds the whole content if the run succeeds. -/
theorem HoldsFront.whole {result : Except ε Unit × σ}
    (h : HoldsFront held content a s xs result) (hok : result.1 = .ok ()) :
    held result.2 = held s ++ xs.flatMap content := by
  obtain ⟨front, back, rfl, hheld, hback, -⟩ := h
  rw [hheld, hback hok, List.append_nil]

end

/-- An action hands some items over one by one: it succeeds if all of them are taken, it fails with
the error of the first that is refused, and a sink that keeps what it takes holds a front of them. -/
structure Streams (a : α → Action σ ε Unit) (xs : List α) (run : Action σ ε Unit) : Prop where
  succeeds_iff (s s' : σ) : run.on s = (.ok (), s') ↔ Takes a s xs s'
  fails_iff (s s' : σ) (e : ε) : run.on s = (.error e, s') ↔ Refuses a s xs e s'
  holdsFront {β : Type} (held : σ → List β) (content : α → List β) (s : σ) :
    Keeps held content a → HoldsFront held content a s xs (run.on s)

theorem streams_forM (a : α → Action σ ε Unit) (xs : List α) : Streams a xs (forM xs a) where
  succeeds_iff _ _ := on_forM_eq_ok_iff
  fails_iff _ _ _ := on_forM_eq_error_iff
  holdsFront _ _ s hkeeps := holdsFront_forM hkeeps s xs

end Action

open TextTemplate.Action

/-! ## A buffer with limited room -/

theorem TextBuffer.on_write (s : String) (b : TextBuffer) : (write s).on b =
    if b.fits s then (.ok (), { b with text := b.text ++ s, calls := b.calls + 1 })
    else (.error (), { b with calls := b.calls + 1 }) := by
  show (if b.fits s then _ else _ : Action TextBuffer Unit Unit).on b = _
  split <;> rfl

/-- A buffer adds a text as a whole if there is room for it, and otherwise nothing. -/
theorem TextBuffer.keeps_write :
    Keeps (fun b : TextBuffer => b.text.toList) String.toList TextBuffer.write := by
  intro s b
  rw [on_write]
  split
  · exact String.toList_append
  · rfl

/-! ## Leaves -/

/-- The leaves of a stack are handed over as if they were a list. -/
theorem Leaves.writeOf_eq_forM {σ ε : Type} (write : String → Action σ ε Unit)
    (stack : List Tree) : writeOf write stack = forM (Tree.textsList stack) write := by
  fun_induction writeOf write stack with
  | case1 stack h =>
    rw [textsList_of_nextOf stack, h]
    rfl
  | case2 stack s rest h ih =>
    rw [textsList_of_nextOf stack, h, ih]
    exact List.forM_cons.symm

namespace Tree

variable {σ ε : Type}

theorem writeTo_eq_forM (write : String → Action σ ε Unit) (t : Tree) :
    t.writeTo write = forM t.texts write := by
  show Leaves.writeOf write [t] = _
  rw [Leaves.writeOf_eq_forM, textsList_cons, textsList_nil, List.append_nil]

theorem writeBytesTo_eq_forM (writeAll : List UInt8 → Action σ ε Unit) (t : Tree) :
    t.writeBytesTo writeAll = forM (t.texts.map fun s => s.toUTF8.data.toList) writeAll := by
  rw [writeBytesTo, writeTo_eq_forM, forM_map]

/-- The characters of a text in pieces. -/
theorem toList_join (texts : List String) :
    (String.join texts).toList = texts.flatMap String.toList := by
  induction texts with
  | nil => rfl
  | cons s texts ih => rw [String.join_cons, String.toList_append, ih, List.flatMap_cons]

/-- The bytes of a text in pieces. -/
theorem bytes_join (texts : List String) :
    (String.join texts).toUTF8.data.toList = texts.flatMap fun s => s.toUTF8.data.toList := by
  induction texts with
  | nil => rfl
  | cons s texts ih =>
    rw [String.join_cons, List.flatMap_cons, ← ih]
    exact ByteArray.toList_data_append

/-- **A tree is written up to the first leaf that is refused.** Its leaves, or their bytes, are
handed over one by one from left to right, whatever layout is asked for. A sink that keeps the leaves
that it takes holds a front of the text then, and the whole text if no leaf was refused. -/
theorem writeTo_until_refused (t : Tree) :
    (∀ write : String → Action σ ε Unit, Streams write t.texts (t.writeTo write) ∧
      (∀ layout, t.display layout write = t.writeTo write) ∧
      ∀ held : σ → List Char, Keeps held String.toList write → ∀ s s' result,
        (t.writeTo write).on s = (result, s') → held s' <+: held s ++ t.flatten.toList ∧
          (result = .ok () → held s' = held s ++ t.flatten.toList)) ∧
    ∀ writeAll : List UInt8 → Action σ ε Unit,
      Streams writeAll (t.texts.map fun s => s.toUTF8.data.toList) (t.writeBytesTo writeAll) ∧
      ∀ held : σ → List UInt8, Keeps held id writeAll → ∀ s s' result,
        (t.writeBytesTo writeAll).on s = (result, s') →
          held s' <+: held s ++ t.flatten.toUTF8.data.toList ∧
          (result = .ok () → held s' = held s ++ t.flatten.toUTF8.data.toList) := by
  have hwhole {α β : Type} {a : α → Action σ ε Unit} {xs : List α} {run : Action σ ε Unit}
      (hruns : Streams a xs run) {held : σ → List β} {content : α → List β}
      (hkeeps : Keeps held content a) {s s' : σ} {result : Except ε Unit}
      (h : run.on s = (result, s')) : held s' <+: held s ++ xs.flatMap content ∧
        (result = .ok () → held s' = held s ++ xs.flatMap content) := by
    have hfront := hruns.holdsFront held content s hkeeps
    rw [h] at hfront
    exact ⟨hfront.isPrefix, hfront.whole⟩
  refine ⟨fun write => ?_, fun writeAll => ?_⟩
  · have hruns : Streams write t.texts (t.writeTo write) := by
      rw [writeTo_eq_forM]
      exact streams_forM write t.texts
    refine ⟨hruns, fun layout => rfl, fun held hkeeps s s' result h => ?_⟩
    rw [flatten, leaves_eq_texts, toList_join]
    exact hwhole hruns hkeeps h
  · have hruns : Streams writeAll (t.texts.map fun s => s.toUTF8.data.toList)
        (t.writeBytesTo writeAll) := by
      rw [writeBytesTo_eq_forM]
      exact streams_forM writeAll _
    refine ⟨hruns, fun held hkeeps s s' result h => ?_⟩
    have hbytes : t.flatten.toUTF8.data.toList =
        (t.texts.map fun s => s.toUTF8.data.toList).flatMap id := by
      rw [flatten, leaves_eq_texts, bytes_join, List.flatMap_map]
      rfl
    rw [hbytes]
    exact hwhole hruns hkeeps h

/-- A shared list in the middle, with a text of two bytes and a list of nothing in it. -/
def mixed : Tree := list [text "ab", shared (list [text "é", empty]), text "c"]

/-- There is room for three bytes: the second text is refused, and the first is held. -/
theorem writeTo_until_refused_mixed :
    Keeps (fun b : TextBuffer => b.text.toList) String.toList TextBuffer.write ∧
      (mixed.writeTo TextBuffer.write).on (.new (some 3)) = (.error (), ⟨some 3, "ab", 2⟩) ∧
      Refuses TextBuffer.write (.new (some 3)) mixed.texts () ⟨some 3, "ab", 2⟩ ∧
      "ab".toList <+: mixed.flatten.toList := by
  have hrun : (mixed.writeTo TextBuffer.write).on (.new (some 3)) =
      (.error (), ⟨some 3, "ab", 2⟩) := by
    rw [writeTo_eq_forM]
    rfl
  obtain ⟨hruns, -, hheld⟩ := (writeTo_until_refused mixed).1 TextBuffer.write
  exact ⟨TextBuffer.keeps_write, hrun, (hruns.fails_iff _ _ _).1 hrun,
    (hheld _ TextBuffer.keeps_write _ _ _ hrun).1⟩

end Tree

end TextTemplate
