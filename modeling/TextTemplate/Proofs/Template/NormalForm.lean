import TextTemplate.Proofs.Expansion.Listing
import TextTemplate.Proofs.Template.Loops
import TextTemplate.Proofs.Template.Seam
import TextTemplate.Proofs.Text.Words

/-!
# Templates in normal form

Nodes that were read are as plain as they can be. Characters that follow each other are one text,
however many cuts they came from, and nothing is left of code or of a remark but what belongs to it.
This is an invariant of the stack: it is kept by every piece that is in normal form itself.

- `Cut.no_end_of_splitComment?`, `Remark.ofSplit`: what is left of a remark is a `Remark`.
- `Node.Normal`, `Node.Tidy`: a node in normal form, and one level of a template.
- `Piece.Normal`, `Piece.normal_of_mem_scanFrom`: the pieces of a text.
- `Node.TidyAll`: every level in some nodes is tidy; `tidyAll_addChar`, `TidyAll.append_singleton`
  and `TidyAll.append_ofBranches` are the ways in which nodes grow.
- `Config.Normal`, `normal_of_close`, `normal_of_step`: what a step keeps on the stack.
- `tidyAll_of_runPieces`: so that a run gives it.
- `Template.tidy_of_parseAt`: the main statement.
-/

namespace TextTemplate

/-! ## Remarks -/

namespace Cut

/-- A remark is over at the first place where it may end. -/
theorem no_end_of_splitComment? {s t r : List Char} (h : splitComment? s = some (t, r)) :
    ¬ ['<', '}'] <:+: t := by
  fun_induction splitComment? s generalizing t with
  | case1 => cases h
  | case2 s =>
    cases h
    intro hend
    exact absurd (List.infix_nil.1 hend) (List.cons_ne_nil _ _)
  | case3 c s hnot ih =>
    obtain ⟨⟨u, v⟩, hu, hpair⟩ := Option.map_eq_some_iff.1 h
    cases hpair
    intro hend
    rcases List.infix_cons_iff.1 hend with hpre | hend
    · -- The two signs would stand at the front of the text that was split.
      obtain ⟨w, hw⟩ := hpre
      have hs := append_of_splitComment? hu
      injection hw with hc hw
      subst hw
      exact hnot _ hc.symm hs.symm
    · exact ih hu hend

/-- A remark is what was split off. -/
theorem splitComment?_of_next {c : Char} {s t r : List Char} (h : next c s = .ok (comment t, r)) :
    ∃ u, splitComment? u = some (t, r) := by
  unfold next at h
  split at h
  · split at h
    · cases h
    · obtain ⟨_, hcut, -⟩ := eq_ok_of_braced h
      cases hcut
    · cases h
  · split at h
    · split at h
      · next u =>
        split at h
        · next hu =>
          cases h
          exact ⟨u, hu⟩
        · cases h
      · split at h
        · obtain ⟨_, hcut, -⟩ := eq_ok_of_braced h
          cases hcut
        · cases h
      · cases h
    · cases h

end Cut

/-- What is left of a remark that was split off. -/
def Remark.ofSplit {s t r : List Char} (h : Cut.splitComment? s = some (t, r)) : Remark where
  chars := Text.trim t
  trimmed := Text.trim_trim t
  no_end hend := Cut.no_end_of_splitComment? h (hend.trans (Text.trim_isInfix t))

/-! ## Code -/

namespace Piece

/-- There is no expression without a token. -/
theorem ne_nil_of_expression {s : List Char} {code : Code} (h : expression s = .ok code) :
    code ≠ [] := by
  have hnil : (Grammar.checkExpression []).toOption = none := by decide +kernel
  rintro rfl
  unfold expression at h
  split at h
  · cases h
  · split at h
    · cases h
    · split at h
      · next hcheck =>
        cases h
        rw [hcheck] at hnil
        cases hnil
      · cases h

end Piece

/-! ## Nodes -/

/-- The bodies with conditions in what is left of a choice. -/
def Alternative.guarded : Alternative → List (Code × List Node)
  | .nothing | .otherwise _ => []
  | .elseIf condition body rest => (condition, body) :: rest.guarded

/-- The bodies with conditions in a choice. -/
def Node.guarded : Node → List (Code × List Node)
  | .choice condition body rest => (condition, body) :: rest.guarded
  | .text _ | .chunk _ _ | .loop _ _ _ => []

/-- A node in normal form, whatever the bodies in it are. -/
inductive Node.Normal : Node → Prop
  | text {s : String} (h : s ≠ "") : Normal (.text s)
  | output {code : Code} (h : code ≠ []) : Normal (.chunk .output code)
  | effect (code : Code) : Normal (.chunk .effect code)
  | remark (r : Remark) : Normal (.chunk (.other "comment") [.ofText (String.ofList r.chars)])
  | choice {condition : Code} {body : List Node} {rest : Alternative}
    (h : (Node.choice condition body rest).guarded ≠ []) : Normal (.choice condition body rest)
  | loop {pattern iterator : Code} (h : Piece.IsHead pattern iterator) (body : List Node) :
    Normal (.loop pattern iterator body)

/-- A level of a template in normal form: no two texts stand next to each other. -/
structure Node.Tidy (level : List Node) : Prop where
  normal : ∀ n ∈ level, n.Normal
  apart : ∀ s t, ¬ [.text s, .text t] <:+: level

/-- Every level in some nodes is in normal form. -/
def Node.TidyAll (nodes : List Node) : Prop := ∀ level ∈ Node.bodies nodes, Node.Tidy level

namespace Node

variable {front nodes : List Node} {n : Node}

theorem normal_text_push (s : String) (c : Char) : Normal (.text (s.push c)) := by
  refine .text fun h => ?_
  have hlength := congrArg String.length h
  rw [String.length_push] at hlength
  exact absurd hlength (Nat.succ_ne_zero _)

/-! ## Levels -/

theorem tidy_nil : Tidy [] where
  normal := nofun
  apart _ _ h := absurd (List.infix_nil.1 h) nofun

theorem Tidy.of_append {back : List Node} (h : Tidy (front ++ back)) : Tidy front where
  normal n hn := h.normal n (List.mem_append_left back hn)
  apart s t hst := h.apart s t (hst.trans (List.prefix_append front back).isInfix)

/-- Before a text at the end there is no other text. -/
theorem Tidy.getLast?_ne_text {s : String} (h : Tidy (front ++ [.text s])) (t : String) :
    front.getLast? ≠ some (.text t) := by
  intro hlast
  obtain ⟨before, rfl⟩ := List.getLast?_eq_some_iff.1 hlast
  refine h.apart t s ⟨before, [], ?_⟩
  simp

/-- A level may go on with a node, but not with a text after a text. -/
theorem Tidy.append_singleton (hfront : Tidy front) (hn : n.Normal)
    (h : ∀ t, n = .text t → ∀ s, front.getLast? ≠ some (.text s)) : Tidy (front ++ [n]) where
  normal m hm := by
    rcases List.mem_append.1 hm with hm | hm
    · exact hfront.normal m hm
    · rw [List.mem_singleton.1 hm]
      exact hn
  apart s t hst := by
    rcases List.infix_concat_iff.1 hst with hsuffix | hinfix
    · obtain ⟨before, hbefore⟩ := hsuffix
      have hsplit : (before ++ [.text s]) ++ [.text t] = front ++ [n] := by
        rw [← hbefore, List.append_assoc]
        rfl
      obtain ⟨hfrontEq, hnEq⟩ := List.append_inj' hsplit rfl
      refine h t (List.singleton_inj.1 hnEq).symm s ?_
      rw [← hfrontEq, List.getLast?_concat]
    · exact hfront.apart s t hinfix

/-! ## Levels in levels -/

theorem innerAll_append (nodes rest : List Node) :
    innerAll (nodes ++ rest) = innerAll nodes ++ innerAll rest := by
  induction nodes with
  | nil => rfl
  | cons n nodes ih => rw [List.cons_append, innerAll, innerAll, ih, List.append_assoc]

theorem innerAll_singleton (n : Node) : innerAll [n] = n.inner := List.append_nil _

theorem tidyAll_iff :
    TidyAll nodes ↔ Tidy nodes ∧ ∀ level ∈ innerAll nodes, Tidy level := List.forall_mem_cons

theorem tidyAll_nil : TidyAll [] := tidyAll_iff.2 ⟨tidy_nil, nofun⟩

theorem TidyAll.append_singleton (hfront : TidyAll front) (hlevel : Tidy (front ++ [n]))
    (hinner : ∀ level ∈ n.inner, Tidy level) : TidyAll (front ++ [n]) := by
  refine tidyAll_iff.2 ⟨hlevel, ?_⟩
  rw [innerAll_append, innerAll_singleton, List.forall_mem_append]
  exact ⟨(tidyAll_iff.1 hfront).2, hinner⟩

/-- A node that is no text may follow any others. -/
theorem TidyAll.append_of_not_text (hfront : TidyAll front) (hn : n.Normal)
    (htext : ∀ t, n ≠ .text t) (hinner : ∀ level ∈ n.inner, Tidy level) :
    TidyAll (front ++ [n]) := by
  refine hfront.append_singleton ?_ hinner
  exact (tidyAll_iff.1 hfront).1.append_singleton hn fun t ht => absurd ht (htext t)

/-- A character goes to the text at the end, or else begins one there. -/
theorem tidyAll_addChar (c : Char) (h : TidyAll nodes) : TidyAll (addChar c nodes) := by
  -- The text at the end is taken away and put back with the character, for a level only grows.
  by_cases htext : ∃ s, nodes.getLast? = some (.text s)
  · obtain ⟨s, hs⟩ := htext
    obtain ⟨front, rfl⟩ := List.getLast?_eq_some_iff.1 hs
    have hlevel := (tidyAll_iff.1 h).1
    have hfront : TidyAll front := by
      refine tidyAll_iff.2 ⟨hlevel.of_append, fun level hmem => (tidyAll_iff.1 h).2 level ?_⟩
      rw [innerAll_append]
      exact List.mem_append_left _ hmem
    rw [Automaton.addChar_append_text]
    refine hfront.append_singleton ?_ nofun
    exact hlevel.of_append.append_singleton (normal_text_push s c)
      fun _ _ => hlevel.getLast?_ne_text
  · have hlast : ∀ s, nodes.getLast? ≠ some (.text s) := fun s hs => htext ⟨s, hs⟩
    rw [Automaton.addChar_of_not_text c nodes hlast]
    refine h.append_singleton ?_ nofun
    exact (tidyAll_iff.1 h).1.append_singleton (normal_text_push "" c) fun _ _ => hlast

/-- The bodies of branches are in the choice that is made of them. -/
theorem tidy_of_mem_inner_ofBranches {last : Alternative} {branches : List (Code × List Node)}
    (hbranches : ∀ branch ∈ branches, TidyAll branch.2) (hlast : ∀ level ∈ last.inner, Tidy level) :
    ∀ level ∈ (Alternative.ofBranches last branches).inner, Tidy level := by
  induction branches with
  | nil => exact hlast
  | cons branch rest ih =>
    obtain ⟨condition, body⟩ := branch
    obtain ⟨hbody, hrest⟩ := List.forall_mem_cons.1 hbranches
    show ∀ level ∈ bodies body ++ (Alternative.ofBranches last rest).inner, Tidy level
    exact List.forall_mem_append.2 ⟨hbody, ih hrest⟩

/-- A choice may follow any nodes. -/
theorem TidyAll.append_ofBranches {last : Alternative} {branches : List (Code × List Node)}
    (hfront : TidyAll front) (hbranches : ∀ branch ∈ branches, TidyAll branch.2)
    (hlast : ∀ level ∈ last.inner, Tidy level) : TidyAll (front ++ ofBranches last branches) := by
  cases branches with
  | nil => rwa [ofBranches, List.append_nil]
  | cons branch rest =>
    obtain ⟨condition, body⟩ := branch
    refine hfront.append_of_not_text (.choice (List.cons_ne_nil _ _)) nofun ?_
    -- What is in this choice is what is in an alternative with all of the branches.
    exact tidy_of_mem_inner_ofBranches hbranches hlast

end Node

/-! ## Pieces -/

/-- A piece of which the node is in normal form. -/
def Piece.Normal : Piece → Prop
  | .chunk marker code => (Node.chunk marker code).Normal
  | .openFor _ pattern iterator => IsHead pattern iterator
  | .char _ | .openIf _ _ | .terminator _ _ | .fault _ => True

namespace Piece

variable {p : Position} {piece : Piece}

theorem normal_of_ofTag {tag : List Char} (h : ofTag p tag = .ok piece) : piece.Normal := by
  rcases cases_of_ofTag h with ⟨code, rfl⟩ | ⟨code, pattern, iterator, hhead, rfl⟩ | ⟨t, rfl⟩ |
    ⟨code, rfl⟩
  · trivial
  · exact (parts_of_loopHead hhead).1
  · trivial
  · exact .effect code

/-- The cuts of a text are understood as pieces of normal form. -/
theorem normal_of_ofCut {c : Char} {s rest : List Char} {cut : Cut}
    (hcut : Cut.next c s = .ok (cut, rest)) (h : ofCut p cut = .ok piece) : piece.Normal := by
  cases cut with
  | text c =>
    cases h
    trivial
  | doubledAt =>
    cases h
    trivial
  | output t =>
    obtain ⟨code, hcode, rfl⟩ := exists_of_map_eq_ok h
    exact .output (ne_nil_of_expression hcode)
  | comment t =>
    cases h
    obtain ⟨u, hu⟩ := Cut.splitComment?_of_next hcut
    exact .remark (.ofSplit hu)
  | tag t => exact normal_of_ofTag h

theorem normal_of_mem_scanFrom {s : List Char} (h : piece ∈ scanFrom p s) : piece.Normal := by
  fun_induction scanFrom p s with
  | case1 p => exact absurd h List.not_mem_nil
  | case2 p c s cause hnext =>
    rw [List.mem_singleton.1 h]
    trivial
  | case3 p c s cut rest hnext cause hcut =>
    rw [List.mem_singleton.1 h]
    trivial
  | case4 p c s cut rest hnext first hcut ih =>
    rcases List.mem_cons.1 h with rfl | h
    · exact normal_of_ofCut hnext hcut
    · exact ih h

end Piece

/-! ## The stack -/

/-- An open block of which the finished branches are tidy, or of which the head is told apart. -/
def Frame.Normal : Frame → Prop
  | choice _ finished _ | otherwise finished _ => ∀ branch ∈ finished, Node.TidyAll branch.2
  | loop _ pattern iterator => Piece.IsHead pattern iterator

namespace Automaton

/-- All that has been read is in normal form: the nodes of the innermost level, the open blocks and
the nodes before each of these. -/
structure Config.Normal (c : Config) : Prop where
  nodes : Node.TidyAll c.nodes
  stack : ∀ level ∈ c.stack, level.1.Normal ∧ Node.TidyAll level.2

open Node

variable {c c' : Config} {p : Position} {t : Terminator} {piece : Piece}

theorem tidyAll_of_mem_snoc {finished : List (Code × List Node)} {condition : Code}
    {nodes : List Node} (hfinished : ∀ branch ∈ finished, TidyAll branch.2)
    (hnodes : TidyAll nodes) : ∀ branch ∈ finished ++ [(condition, nodes)], TidyAll branch.2 :=
  List.forall_mem_append.2 ⟨hfinished, List.forall_mem_singleton.2 hnodes⟩

/-- The end or division of a block leaves what has been read in normal form. -/
theorem normal_of_close (hc : c.Normal) (h : c.close p t = .ok c') : c'.Normal := by
  -- The nodes of the level that ends become a body, and the level around it goes on.
  obtain ⟨nodes, stack⟩ := c
  obtain ⟨hnodes, hall⟩ := hc
  match stack with
  | [] => exact absurd h nofun
  | (frame, before) :: stack =>
    obtain ⟨⟨hframe, hbefore⟩, hstack⟩ := List.forall_mem_cons.1 hall
    match frame, t with
    | .choice opened finished condition, .elseIf next =>
      cases h
      exact ⟨tidyAll_nil, List.forall_mem_cons.2
        ⟨⟨tidyAll_of_mem_snoc hframe hnodes, hbefore⟩, hstack⟩⟩
    | .choice opened finished condition, .otherwise =>
      cases h
      exact ⟨tidyAll_nil, List.forall_mem_cons.2
        ⟨⟨tidyAll_of_mem_snoc hframe hnodes, hbefore⟩, hstack⟩⟩
    | .choice opened finished condition, .endIf =>
      cases h
      exact ⟨hbefore.append_ofBranches (tidyAll_of_mem_snoc hframe hnodes) nofun, hstack⟩
    | .otherwise finished opened, .endIf =>
      cases h
      exact ⟨hbefore.append_ofBranches hframe hnodes, hstack⟩
    | .loop opened pattern iterator, .endFor =>
      cases h
      exact ⟨hbefore.append_of_not_text (.loop hframe nodes) nofun hnodes, hstack⟩
    | .choice opened finished condition, .endFor => exact absurd h nofun
    | .otherwise finished opened, .elseIf _ | .otherwise finished opened, .otherwise
    | .otherwise finished opened, .endFor => exact absurd h nofun
    | .loop opened pattern iterator, .elseIf _ | .loop opened pattern iterator, .otherwise
    | .loop opened pattern iterator, .endIf => exact absurd h nofun

/-- A piece of normal form leaves what has been read in normal form. -/
theorem normal_of_step (hc : c.Normal) (hpiece : piece.Normal) (h : c.step piece = .ok c') :
    c'.Normal := by
  cases piece with
  | char ch =>
    cases h
    exact ⟨tidyAll_addChar ch hc.nodes, hc.stack⟩
  | chunk marker code =>
    cases h
    exact ⟨hc.nodes.append_of_not_text hpiece nofun nofun, hc.stack⟩
  | openIf p condition =>
    cases h
    exact ⟨tidyAll_nil, List.forall_mem_cons.2 ⟨⟨nofun, hc.nodes⟩, hc.stack⟩⟩
  | openFor p pattern iterator =>
    cases h
    exact ⟨tidyAll_nil, List.forall_mem_cons.2 ⟨⟨hpiece, hc.nodes⟩, hc.stack⟩⟩
  | terminator p t => exact normal_of_close hc h
  | fault f => exact absurd h nofun

/-- What a run reads is tidy on every level. -/
theorem tidyAll_of_runPieces {pieces : List Piece} {nodes : List Node} (hc : c.Normal)
    (hpieces : ∀ piece ∈ pieces, piece.Normal) (h : runPieces c pieces = .ok nodes) :
    TidyAll nodes := by
  induction pieces generalizing c with
  | nil =>
    obtain ⟨inner, stack⟩ := c
    match stack with
    | [] =>
      cases h
      exact hc.nodes
    | (.choice _ _ _, _) :: _ | (.otherwise _ _, _) :: _ | (.loop _ _ _, _) :: _ =>
      exact absurd h nofun
  | cons piece rest ih =>
    obtain ⟨hpiece, hrest⟩ := List.forall_mem_cons.1 hpieces
    rw [runPieces] at h
    cases hstep : c.step piece with
    | error f =>
      rw [hstep] at h
      cases h
    | ok next =>
      rw [hstep] at h
      exact ih (normal_of_step hc hpiece hstep) hrest h

end Automaton

/-! ## Templates -/

namespace Template

/-- **Every accepted template is in normal form**, on every level and wherever it begins. No text is
empty and no two texts are next to each other; code is that of an output, which is not empty, of an
effect, or the literal of a remark, which is trimmed and has no end of a remark in it; a choice has
a branch; and a loop has a pattern without the word `in`, and an iterator. -/
theorem tidy_of_parseAt (lineOffset : Nat) (s : List Char) (nodes : List Node)
    (h : parseAt lineOffset s = .ok nodes) : ∀ level ∈ Node.bodies nodes, Node.Tidy level := by
  rw [parseAt, Automaton.ofPieces_eq_runPieces] at h
  have hstart : Automaton.Config.start.Normal := ⟨Node.tidyAll_nil, List.forall_mem_nil _⟩
  exact Automaton.tidyAll_of_runPieces hstart (fun _ => Piece.normal_of_mem_scanFrom) h

/-- A text that is cut by a doubled sign and goes on behind it, a remark with white space around it,
and a loop in a choice. -/
def untidy : List Char :=
  "a@@b@\x7bx\x7d\x7b> y < \n<\x7d".toList ++
    "\x7b#if c\x7d\x7b#for p in i\x7d\x7b$do f\x7dt\x7b/for\x7d\x7b:else\x7d\x7b/if\x7d".toList

/-- There are four levels: the template, the branch with the loop, the loop, and the empty one. -/
theorem tidy_of_parseAt_untidy :
    ∃ nodes, parseAt 5 untidy = .ok nodes ∧
      (Node.bodies nodes).map (List.map Node.text?) =
        [[some "a@b", none, none, none], [none], [none, some "t"], []] ∧
      ∀ level ∈ Node.bodies nodes, Node.Tidy level := by
  have hmap : (Automaton.runPieces .start (Piece.scanFrom (Position.start.below 5) untidy)).map
      (fun nodes => (Node.bodies nodes).map (List.map Node.text?)) =
        .ok [[some "a@b", none, none, none], [none], [none, some "t"], []] := by
    decide +kernel
  obtain ⟨nodes, hrun, hlevels⟩ := Piece.exists_of_map_eq_ok hmap
  have h : parseAt 5 untidy = .ok nodes := by
    rw [parseAt, Automaton.ofPieces_eq_runPieces]
    exact hrun
  exact ⟨nodes, h, hlevels, tidy_of_parseAt 5 untidy nodes h⟩

end Template

end TextTemplate
