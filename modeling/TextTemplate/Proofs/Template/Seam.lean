import TextTemplate.Proofs.Template.Lookahead
import TextTemplate.Proofs.Template.Places
import TextTemplate.Proofs.Template.Relocation

/-!
# One template after the other

Two templates, one written after the other, are read as the nodes of the first and then those of the
second. A text at the end of the first and one at the beginning of the second become one text. Where
the two would make a construct that is in neither of them, nothing is said.

- `Node.join`: nodes after nodes.
- `Node.addChar_join`, `Node.join_append`: what is added after joined nodes is added to the second.
- `Config.behind`: an automaton that has read other nodes before.
- `step_behind`, `runPieces_behind`: a step and a run do not look at these.
- `Template.Joins`: the end of a template and the beginning of another one make a construct.
- `scanFrom_append`: the pieces of two templates that do not join.
- `Template.parse_append`: the main statement.
-/

namespace TextTemplate

/-! ## Nodes after nodes -/

namespace Node

/-- A text in front of nodes. It takes in a text at their beginning. -/
def addText (s : String) : List Node → List Node
  | text t :: back => text (s ++ t) :: back
  | back => text s :: back

/-- Nodes after nodes. A text at the end of the first and one at the beginning of the second become
one text. -/
def join : List Node → List Node → List Node
  | [], back => back
  | [text s], back => addText s back
  | n :: front, back => n :: join front back

@[simp] theorem join_nil_left (back : List Node) : join [] back = back := by
  rw [join]

@[simp] theorem join_text (s : String) (back : List Node) :
    join [text s] back = addText s back := by
  rw [join]

/-- Only the last node may be joined with what follows. -/
@[simp] theorem join_cons_cons (n m : Node) (front back : List Node) :
    join (n :: m :: front) back = n :: join (m :: front) back := by
  rw [join]
  simp

/-- What is not text is not joined. -/
theorem join_of_not_text {n : Node} (h : ∀ s, n ≠ text s) (back : List Node) :
    join [n] back = n :: back := by
  rw [join, join_nil_left]
  exact fun s hs _ => h s hs

theorem addText_ne_nil (s : String) (back : List Node) : addText s back ≠ [] := by
  unfold addText
  split <;> simp

theorem join_ne_nil (n : Node) (front back : List Node) : join (n :: front) back ≠ [] := by
  match front with
  | m :: front => simp
  | [] =>
    match n with
    | .text s => exact addText_ne_nil s back
    | .chunk _ _ | .choice _ _ _ | .loop _ _ _ => simp [join_of_not_text]

@[simp] theorem join_nil_right (front : List Node) : join front [] = front := by
  match front with
  | [] => rfl
  | n :: m :: front => rw [join_cons_cons, join_nil_right]
  | [.text s] => rfl
  | [.chunk _ _] | [.choice _ _ _] | [.loop _ _ _] => simp [join_of_not_text]

theorem addText_append {added : List Node} (h : ∀ t, added.head? ≠ some (text t)) (s : String)
    (back : List Node) : addText s (back ++ added) = addText s back ++ added := by
  match back with
  | [] =>
    cases added with
    | nil => rfl
    | cons n added =>
      cases n with
      | text t => exact absurd rfl (h t)
      | chunk _ _ => rfl
      | choice _ _ _ => rfl
      | loop _ _ _ => rfl
  | .text t :: back => rfl
  | .chunk _ _ :: back | .choice _ _ _ :: back | .loop _ _ _ :: back => rfl

/-- What is added after the second nodes is added after both, unless it is text and would be joined
itself. -/
theorem join_append {added : List Node} (h : ∀ t, added.head? ≠ some (text t))
    (front back : List Node) : join front (back ++ added) = join front back ++ added := by
  match front with
  | [] => rw [join_nil_left, join_nil_left]
  | n :: m :: front =>
    rw [join_cons_cons, join_cons_cons, join_append h (m :: front), List.cons_append]
  | [.text s] => rw [join_text, join_text, addText_append h]
  | [.chunk _ _] | [.choice _ _ _] | [.loop _ _ _] => simp [join_of_not_text]

/-- A character is added after the last node. -/
theorem addChar_cons {n : Node} {rest : List Node} (h : ∀ s, n = text s → rest ≠ []) (c : Char) :
    addChar c (n :: rest) = n :: addChar c rest := by
  rw [addChar]
  exact fun s hn hrest => h s hn hrest

theorem addChar_addText (c : Char) (s : String) (back : List Node) :
    addChar c (addText s back) = addText s (addChar c back) := by
  match back with
  | [] =>
    show [text (s.push c)] = [text (s ++ String.singleton c)]
    rw [String.append_singleton]
  | [.text t] =>
    show [text ((s ++ t).push c)] = [text (s ++ t.push c)]
    rw [← String.append_singleton, ← String.append_singleton, String.append_assoc]
  | .text t :: m :: back =>
    have hrest (u : String) : addChar c (text u :: m :: back) = text u :: addChar c (m :: back) :=
      addChar_cons (by simp) c
    show addChar c (text (s ++ t) :: m :: back) = _
    rw [hrest, hrest]
    rfl
  | .chunk _ _ :: back | .choice _ _ _ :: back | .loop _ _ _ :: back =>
    show addChar c (text s :: _ :: back) = _
    rw [addChar_cons (by simp), addChar_cons (by simp)]
    rfl

/-- A character that is added after the second nodes is added after both. -/
theorem addChar_join (c : Char) (front back : List Node) :
    addChar c (join front back) = join front (addChar c back) := by
  match front with
  | [] => rw [join_nil_left, join_nil_left]
  | n :: m :: front =>
    rw [join_cons_cons, join_cons_cons, addChar_cons (fun _ _ => join_ne_nil m front back),
      addChar_join c (m :: front)]
  | [.text s] => rw [join_text, join_text, addChar_addText]
  | [.chunk _ _] | [.choice _ _ _] | [.loop _ _ _] =>
    rw [join_of_not_text (by simp), join_of_not_text (by simp), addChar_cons (by simp)]

/-- The text that a node is, if it is one. -/
def text? : Node → Option String
  | text s => some s
  | _ => none

end Node

namespace Automaton

open Node

/-! ## Runs after other nodes -/

/-- Nodes put before those of the outermost level. -/
def under (front : List Node) : List (Frame × List Node) → List (Frame × List Node)
  | [] => []
  | [(frame, before)] => [(frame, join front before)]
  | level :: stack => level :: under front stack

/-- An automaton that has read other nodes before. -/
def Config.behind (front : List Node) : Config → Config
  | ⟨nodes, []⟩ => ⟨join front nodes, []⟩
  | ⟨nodes, stack⟩ => ⟨nodes, under front stack⟩

variable (front : List Node)

theorem head?_ofBranches_ne_text (last : Alternative) (branches : List (Code × List Node))
    (t : String) : (ofBranches last branches).head? ≠ some (text t) := by
  cases branches with
  | nil => exact nofun
  | cons branch rest => exact nofun

/-- Closing or dividing a block does not look at nodes of the outermost level. -/
theorem close_behind (c : Config) (p : Position) (t : Terminator) :
    (c.behind front).close p t = (c.close p t).map (Config.behind front) := by
  have hclosed {added : List Node} (h : ∀ t, added.head? ≠ some (text t)) (before : List Node) :
      Except.ok (ε := Fault) (Config.mk (join front before ++ added) []) =
        .ok ((Config.mk (before ++ added) []).behind front) := by
    rw [← join_append h]
    rfl
  obtain ⟨nodes, stack⟩ := c
  match stack, t with
  | [], _ => rfl
  | [(.choice _ _ _, before)], .endIf => exact hclosed (head?_ofBranches_ne_text _ _) before
  | [(.otherwise _ _, before)], .endIf => exact hclosed (head?_ofBranches_ne_text _ _) before
  | [(.loop _ _ _, before)], .endFor => exact hclosed (by simp) before
  | [(.choice _ _ _, _)], .elseIf _ | [(.choice _ _ _, _)], .otherwise
  | [(.choice _ _ _, _)], .endFor
  | [(.otherwise _ _, _)], .elseIf _ | [(.otherwise _ _, _)], .otherwise
  | [(.otherwise _ _, _)], .endFor
  | [(.loop _ _ _, _)], .elseIf _ | [(.loop _ _ _, _)], .otherwise
  | [(.loop _ _ _, _)], .endIf => rfl
  | (.choice _ _ _, _) :: _ :: _, t => cases t <;> rfl
  | (.otherwise _ _, _) :: _ :: _, t => cases t <;> rfl
  | (.loop _ _ _, _) :: _ :: _, t => cases t <;> rfl

/-- A step does not look at nodes of the outermost level. -/
theorem step_behind (c : Config) (piece : Piece) :
    (c.behind front).step piece = (c.step piece).map (Config.behind front) := by
  obtain ⟨nodes, stack⟩ := c
  match piece, stack with
  | .char ch, [] =>
    show Except.ok (Config.mk (addChar ch (join front nodes)) []) = _
    rw [addChar_join]
    rfl
  | .chunk marker code, [] =>
    show Except.ok (Config.mk (join front nodes ++ [chunk marker code]) []) = _
    rw [← join_append (by simp)]
    rfl
  | .char _, _ :: _ | .chunk _ _, _ :: _ => rfl
  | .openIf _ _, [] | .openIf _ _, _ :: _ => rfl
  | .openFor _ _ _, [] | .openFor _ _ _, _ :: _ => rfl
  | .terminator p t, stack => exact close_behind front ⟨nodes, stack⟩ p t
  | .fault f, stack => rfl

theorem finish_behind (c : Config) : (c.behind front).finish = c.finish.map (join front) := by
  obtain ⟨nodes, stack⟩ := c
  match stack with
  | [] => rfl
  | [(.choice _ _ _, _)] | [(.otherwise _ _, _)] | [(.loop _ _ _, _)] => rfl
  | (.choice _ _ _, _) :: _ :: _ | (.otherwise _ _, _) :: _ :: _ | (.loop _ _ _, _) :: _ :: _ => rfl

/-- A run after other nodes adds its nodes to them. -/
theorem runPieces_behind (c : Config) (pieces : List Piece) :
    runPieces (c.behind front) pieces = (runPieces c pieces).map (join front) := by
  induction pieces generalizing c with
  | nil => exact finish_behind front c
  | cons piece rest ih =>
    rw [runPieces, runPieces, step_behind]
    cases c.step piece with
    | error f => rfl
    | ok next => exact ih next

variable {c : Config} {pieces : List Piece} {nodes : List Node}

/-- A run that succeeds takes every step. -/
theorem exists_step_of_runPieces {piece : Piece} (h : runPieces c (piece :: pieces) = .ok nodes) :
    ∃ next, c.step piece = .ok next ∧ runPieces next pieces = .ok nodes := by
  rw [runPieces] at h
  cases hstep : c.step piece with
  | error f =>
    rw [hstep] at h
    cases h
  | ok next =>
    rw [hstep] at h
    exact ⟨next, rfl, h⟩

/-- A run that succeeds has closed all blocks, so that pieces after it are read on the outermost
level. -/
theorem runPieces_append (h : runPieces c pieces = .ok nodes) (more : List Piece) :
    runPieces c (pieces ++ more) = runPieces ⟨nodes, []⟩ more := by
  induction pieces generalizing c with
  | nil =>
    obtain ⟨nodes', stack⟩ := c
    match stack with
    | [] =>
      cases h
      rfl
    | (.choice _ _ _, _) :: _ | (.otherwise _ _, _) :: _ | (.loop _ _ _, _) :: _ => cases h
  | cons piece rest ih =>
    obtain ⟨next, hstep, h⟩ := exists_step_of_runPieces h
    rw [List.cons_append, runPieces, hstep]
    exact ih h

/-- No step gets past a fault. -/
theorem not_mem_of_runPieces (h : runPieces c pieces = .ok nodes) (f : Fault) :
    .fault f ∉ pieces := by
  induction pieces generalizing c with
  | nil => exact List.not_mem_nil
  | cons piece rest ih =>
    obtain ⟨next, hstep, h⟩ := exists_step_of_runPieces h
    intro hmem
    rcases List.mem_cons.1 hmem with rfl | hmem
    · cases hstep
    · exact ih h hmem

end Automaton

/-! ## Texts after texts -/

namespace Template

/-- The end of a template and the beginning of another one make a construct that is in neither of
them: a sign that stands for itself begins one, or a quote in front of the last brace begins a
literal. -/
def Joins (a b : List Char) : Prop :=
  (['@'] <:+ a ∧ b.head? ∈ [some '@', some '{']) ∨
    (['{'] <:+ a ∧ b.head? ∈ [some '>', some '#', some ':', some '/', some '$']) ∨
      (['\'', '}'] <:+ a ∧ b.head? = some '\'')

instance (a b : List Char) : Decidable (Joins a b) :=
  inferInstanceAs (Decidable (_ ∨ _ ∨ _))

/-- What makes a construct with the last part of a template makes one with the template. -/
theorem Joins.of_suffix {a a' b : List Char} (h : Joins a b) (ha : a <:+ a') : Joins a' b := by
  rcases h with ⟨hend, hb⟩ | ⟨hend, hb⟩ | ⟨hend, hb⟩
  · exact .inl ⟨hend.trans ha, hb⟩
  · exact .inr (.inl ⟨hend.trans ha, hb⟩)
  · exact .inr (.inr ⟨hend.trans ha, hb⟩)

end Template

namespace Cut

/-- A cut that would be another one is at the end of a template that makes a construct with what
follows. -/
theorem joins_source {cut : Cut} {b : List Char} (h : cut.Joins b) :
    Template.Joins cut.source b := by
  by_cases htext : ∃ c, cut = text c
  · obtain ⟨c, rfl⟩ := htext
    rcases h with ⟨rfl, hb⟩ | ⟨rfl, hb⟩
    · exact .inl ⟨List.suffix_rfl, by simpa using hb⟩
    · obtain ⟨d, hd, hhead⟩ := hb
      refine .inr (.inl ⟨List.suffix_rfl, ?_⟩)
      rw [hhead]
      exact List.mem_map_of_mem hd
  · exact .inr (.inr (suffix_of_joins h fun c hc => htext ⟨c, hc⟩))

end Cut

namespace Piece

/-- The pieces of two templates that do not join are those of the first and those of the second. -/
theorem scanFrom_append {p : Position} {a b : List Char} (h : ¬ Template.Joins a b)
    (hfault : ∀ f, .fault f ∉ scanFrom p a) :
    scanFrom p (a ++ b) = scanFrom p a ++ scanFrom (p.afterAll a) b := by
  fun_induction scanFrom p a with
  | case1 p => rfl
  | case2 p c s cause => exact absurd List.mem_cons_self (hfault _)
  | case3 p c s cut rest hnext cause => exact absurd List.mem_cons_self (hfault _)
  | case4 p c s cut rest hnext piece hcut ih =>
    have hsource := Cut.append_of_next hnext
    have hrest : ¬ Template.Joins rest b := fun hrest => h (hrest.of_suffix ⟨cut.source, hsource⟩)
    -- Only the last cut could join with the second template.
    have hjoins : rest = [] → ¬ cut.Joins b := by
      rintro rfl hcutJoins
      rw [List.append_nil] at hsource
      rw [← hsource] at h
      exact h (Cut.joins_source hcutJoins)
    rw [List.cons_append, scanFrom_of_cut (Cut.next_append hnext hjoins) hcut,
      ih hrest fun f hf => hfault f (List.mem_cons_of_mem _ hf), ← hsource,
      Position.afterAll_append]
    rfl

end Piece

namespace Template

open Automaton

/-- What a template means does not depend on where it begins. -/
theorem runPieces_of_parse {s : List Char} {nodes : List Node} (h : parse s = .ok nodes)
    (p : Position) : runPieces .start (Piece.scanFrom p s) = .ok nodes := by
  have hscan : (Piece.scanFrom p s).map (Piece.relocate fun _ => .start) =
      (Piece.scan s).map (Piece.relocate fun _ => .start) :=
    Piece.scanFrom_relocate (fun _ _ _ _ => rfl) s rfl
  have hp := runPieces_relocate (fun _ => .start) .start (Piece.scanFrom p s)
  have hs := runPieces_relocate (fun _ => .start) .start (Piece.scan s)
  rw [← parse_eq_runPieces, h] at hs
  rw [hscan, hs] at hp
  cases hrun : runPieces .start (Piece.scanFrom p s) with
  | error f =>
    rw [hrun] at hp
    cases hp
  | ok m =>
    rw [hrun] at hp
    cases hp
    rfl

/-- **A template after another one** is read as the nodes of the first and then its own, if the two
make no construct that is in neither of them. -/
theorem parse_append (a b : List Char) (na nb : List Node) (ha : parse a = .ok na)
    (hb : parse b = .ok nb) (h : ¬ Joins a b) : parse (a ++ b) = .ok (Node.join na nb) := by
  rw [parse_eq_runPieces] at ha
  have hscan : Piece.scan (a ++ b) = Piece.scan a ++ Piece.scanFrom (Position.start.afterAll a) b :=
    Piece.scanFrom_append h (not_mem_of_runPieces ha)
  -- The second template is read as if the automaton had not read the first one.
  have hbehind : Config.behind na .start = ⟨na, []⟩ := by
    show Config.mk (Node.join na []) [] = _
    rw [Node.join_nil_right]
  rw [parse_eq_runPieces, hscan, runPieces_append ha, ← hbehind, runPieces_behind,
    runPieces_of_parse hb]
  rfl

/-- A template with a brace at its end. -/
def opened : List Char := "x@\x7b'y'\x7d\x7b".toList

/-- A template that begins with none of the signs that make a construct of a brace. -/
def continued : List Char := "w\x7b#if c\x7dv\x7b/if\x7d".toList

/-- The brace and the text after it become one text. -/
theorem parse_append_continued :
    ∃ na nb, parse opened = .ok na ∧ parse continued = .ok nb ∧ ¬ Joins opened continued ∧
      parse (opened ++ continued) = .ok (Node.join na nb) ∧
      na.map Node.text? = [some "x", none, some "\x7b"] ∧ nb.map Node.text? = [some "w", none] ∧
      (Node.join na nb).map Node.text? = [some "x", none, some "\x7bw", none] := by
  have hread {s : List Char} (texts : List (Option String))
      (h : (runPieces .start (Piece.scan s)).map (List.map Node.text?) = .ok texts) :
      ∃ nodes, parse s = .ok nodes ∧ nodes.map Node.text? = texts := by
    rw [← parse_eq_runPieces] at h
    exact Piece.exists_of_map_eq_ok h
  obtain ⟨na, ha, hna⟩ := hread (s := opened) [some "x", none, some "\x7b"] (by decide +kernel)
  obtain ⟨nb, hb, hnb⟩ := hread (s := continued) [some "w", none] (by decide +kernel)
  obtain ⟨nodes, hnodes, hall⟩ := hread (s := opened ++ continued)
    [some "x", none, some "\x7bw", none] (by decide +kernel)
  have hjoins : ¬ Joins opened continued := by decide
  have hparse := parse_append opened continued na nb ha hb hjoins
  rw [hnodes] at hparse
  cases hparse
  exact ⟨na, nb, ha, hb, hjoins, hnodes, hna, hnb, hall⟩

end Template

end TextTemplate
