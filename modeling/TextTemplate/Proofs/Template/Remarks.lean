import TextTemplate.Proofs.Expansion.Uncommented
import TextTemplate.Proofs.Template.Cutting

/-!
# Remarks put into a template

A remark behind a construct is read as a chunk among the other nodes, and nothing else of the
template is read in another way. Such a chunk adds nothing to the code, and so the code is the same.

- `Node.Like`: nodes that differ only in remarks and go on alike with a character.
- `Frame.Like`, `Config.Like`: the same of open blocks and of all that has been read.
- `like_of_close`, `like_of_step`: what a step keeps, and `exists_runPieces_of_like` of a run.
- `Frame.Begun`, `edge_of_step`: behind a construct no text goes on.
- `exists_edge_of_runPieces`: what has been read up to a construct.
- `runPieces_scanFrom_iff`: a run over a text that begins at another position.
- `Template.compile_remark`: the main statement.
-/

namespace TextTemplate

/-! ## Nodes that differ in remarks -/

namespace Node

/-- Nodes to whose last text a character would be added. -/
def EndsInText (nodes : List Node) : Prop := ∃ s, nodes.getLast? = some (text s)

theorem endsInText_append_text (front : List Node) (s : String) :
    EndsInText (front ++ [text s]) := ⟨s, List.getLast?_concat⟩

theorem not_endsInText_nil : ¬ EndsInText [] := nofun

theorem not_endsInText_append {n : Node} (h : ∀ s, n ≠ text s) (front : List Node) :
    ¬ EndsInText (front ++ [n]) := by
  rintro ⟨s, hs⟩
  rw [List.getLast?_concat] at hs
  exact h s (Option.some.inj hs)

/-- Nodes that differ only in remarks, of which both end in text or neither. -/
structure Like (nodes nodes' : List Node) : Prop where
  dropRemarks_eq : dropRemarks nodes' = dropRemarks nodes
  endsInText_iff : EndsInText nodes' ↔ EndsInText nodes

variable {nodes nodes' : List Node}

theorem Like.refl (nodes : List Node) : Like nodes nodes := ⟨rfl, Iff.rfl⟩

/-- Nodes that are no text may follow. -/
theorem Like.append_singleton (h : Like nodes nodes') {n n' : Node} (hn : ∀ s, n ≠ text s)
    (hn' : ∀ s, n' ≠ text s) (hdrop : dropRemarks [n'] = dropRemarks [n]) :
    Like (nodes ++ [n]) (nodes' ++ [n']) where
  dropRemarks_eq := by rw [dropRemarks_append, dropRemarks_append, h.dropRemarks_eq, hdrop]
  endsInText_iff := iff_of_false (not_endsInText_append hn' _) (not_endsInText_append hn _)

/-- A remark may follow nodes that do not end in text. -/
theorem Like.append_remark (h : ¬ EndsInText nodes) {n : Node} (hn : n.isRemark = true) :
    Like nodes (nodes ++ [n]) where
  dropRemarks_eq := by
    rw [dropRemarks_append, dropRemarks_cons_of_remark hn, dropRemarks, List.append_nil]
  endsInText_iff := by
    refine iff_of_false (not_endsInText_append ?_ nodes) h
    rintro s rfl
    exact absurd hn Bool.false_ne_true

/-- A character goes to the texts at the ends, or else begins a text after both. -/
theorem Like.addChar (h : Like nodes nodes') (c : Char) :
    Like (addChar c nodes) (addChar c nodes') := by
  have hdrop (front : List Node) (s : String) :
      dropRemarks (front ++ [text s]) = dropRemarks front ++ [text s] := dropRemarks_append _ _
  by_cases hends : EndsInText nodes
  · obtain ⟨s, hs⟩ := hends
    obtain ⟨t, ht⟩ := h.endsInText_iff.2 ⟨s, hs⟩
    obtain ⟨front, rfl⟩ := List.getLast?_eq_some_iff.1 hs
    obtain ⟨front', rfl⟩ := List.getLast?_eq_some_iff.1 ht
    have heq := h.dropRemarks_eq
    rw [hdrop, hdrop] at heq
    obtain ⟨hfront, htext⟩ := List.append_inj' heq rfl
    cases htext
    rw [Automaton.addChar_append_text, Automaton.addChar_append_text]
    refine ⟨by rw [hdrop, hdrop, hfront], ?_⟩
    exact iff_of_true (endsInText_append_text _ _) (endsInText_append_text _ _)
  · have hends' : ¬ EndsInText nodes' := fun h' => hends (h.endsInText_iff.1 h')
    rw [Automaton.addChar_of_not_text c nodes fun s hs => hends ⟨s, hs⟩,
      Automaton.addChar_of_not_text c nodes' fun s hs => hends' ⟨s, hs⟩]
    refine ⟨by rw [hdrop, hdrop, h.dropRemarks_eq], ?_⟩
    exact iff_of_true (endsInText_append_text _ _) (endsInText_append_text _ _)

/-- A choice may follow of which the bodies differ only in remarks. -/
theorem Like.append_ofBranches (h : Like nodes nodes') {last last' : Alternative}
    {branches branches' : List (Code × List Node)}
    (hlast : last'.withoutRemarks = last.withoutRemarks)
    (hbranches : dropRemarksIn branches' = dropRemarksIn branches) :
    Like (nodes ++ ofBranches last branches) (nodes' ++ ofBranches last' branches') := by
  have hdrop : dropRemarks (ofBranches last' branches') =
      dropRemarks (ofBranches last branches) := by
    rw [dropRemarks_ofBranches, dropRemarks_ofBranches, hlast, hbranches]
  cases branches with
  | nil =>
    obtain rfl : branches' = [] := List.map_eq_nil_iff.1 hbranches
    rw [ofBranches, ofBranches, List.append_nil, List.append_nil]
    exact h
  | cons branch rest =>
    cases branches' with
    | nil => exact absurd hbranches (List.cons_ne_nil _ _).symm
    | cons branch' rest' => exact h.append_singleton (by simp) (by simp) hdrop

end Node

/-- Open blocks that differ only in remarks in their finished branches. -/
inductive Frame.Like : Frame → Frame → Prop
  | choice (p : Position) {finished finished' : List (Code × List Node)} (condition : Code)
    (h : Node.dropRemarksIn finished' = Node.dropRemarksIn finished) :
    Like (.choice p finished condition) (.choice p finished' condition)
  | otherwise {finished finished' : List (Code × List Node)} (p : Position)
    (h : Node.dropRemarksIn finished' = Node.dropRemarksIn finished) :
    Like (.otherwise finished p) (.otherwise finished' p)
  | loop (p : Position) (pattern iterator : Code) :
    Like (.loop p pattern iterator) (.loop p pattern iterator)

theorem Frame.Like.refl (frame : Frame) : frame.Like frame := by
  cases frame with
  | choice p finished condition => exact .choice p condition rfl
  | otherwise finished p => exact .otherwise p rfl
  | loop p pattern iterator => exact .loop p pattern iterator

namespace Automaton

open Node

/-- What has been read differs only in remarks. -/
structure Config.Like (c c' : Config) : Prop where
  nodes : Node.Like c.nodes c'.nodes
  stack : List.Forall₂
    (fun level level' => level.1.Like level'.1 ∧ Node.Like level.2 level'.2) c.stack c'.stack

variable {c c' d : Config} {p : Position} {t : Terminator} {piece : Piece} {pieces : List Piece}
  {nodes : List Node}

theorem dropRemarksIn_snoc {finished finished' : List (Code × List Node)} (condition : Code)
    {nodes nodes' : List Node} (hfinished : dropRemarksIn finished' = dropRemarksIn finished)
    (hnodes : Node.Like nodes nodes') : dropRemarksIn (finished' ++ [(condition, nodes')]) =
      dropRemarksIn (finished ++ [(condition, nodes)]) := by
  have hsnoc (branches : List (Code × List Node)) (body : List Node) :
      dropRemarksIn (branches ++ [(condition, body)]) =
        dropRemarksIn branches ++ [(condition, dropRemarks body)] := List.map_append
  rw [hsnoc, hsnoc, hfinished, hnodes.dropRemarks_eq]

/-- The end or division of a block does not look at remarks. -/
theorem like_of_close (h : c.Like c') (hclose : c.close p t = .ok d) :
    ∃ d', c'.close p t = .ok d' ∧ d.Like d' := by
  obtain ⟨nodes, stack⟩ := c
  obtain ⟨nodes', stack'⟩ := c'
  obtain ⟨hnodes, hstack⟩ := h
  cases hstack with
  | nil => exact absurd hclose nofun
  | @cons level level' stack stack' hlevel hstack =>
    obtain ⟨frame, before⟩ := level
    obtain ⟨frame', before'⟩ := level'
    obtain ⟨hframe, hbefore⟩ := hlevel
    cases hframe with
    | choice p condition hfinished =>
      have hsnoc := dropRemarksIn_snoc condition hfinished hnodes
      cases t with
      | elseIf next =>
        cases hclose
        exact ⟨_, rfl, .refl [], .cons ⟨.choice p next hsnoc, hbefore⟩ hstack⟩
      | otherwise =>
        cases hclose
        exact ⟨_, rfl, .refl [], .cons ⟨.otherwise _ hsnoc, hbefore⟩ hstack⟩
      | endIf =>
        cases hclose
        exact ⟨_, rfl, hbefore.append_ofBranches rfl hsnoc, hstack⟩
      | endFor => exact absurd hclose nofun
    | otherwise p hfinished =>
      cases t with
      | endIf =>
        cases hclose
        refine ⟨_, rfl, hbefore.append_ofBranches ?_ hfinished, hstack⟩
        exact congrArg Alternative.otherwise hnodes.dropRemarks_eq
      | elseIf _ | otherwise | endFor => exact absurd hclose nofun
    | loop p pattern iterator =>
      cases t with
      | endFor =>
        cases hclose
        refine ⟨_, rfl, hbefore.append_singleton nofun nofun ?_, hstack⟩
        rw [dropRemarks_cons_of_not_remark rfl, dropRemarks_cons_of_not_remark rfl,
          withoutRemarks, withoutRemarks, hnodes.dropRemarks_eq]
      | elseIf _ | otherwise | endIf => exact absurd hclose nofun

/-- A step does not look at remarks. -/
theorem like_of_step (h : c.Like c') (hstep : c.step piece = .ok d) :
    ∃ d', c'.step piece = .ok d' ∧ d.Like d' := by
  cases piece with
  | char ch =>
    cases hstep
    exact ⟨_, rfl, h.nodes.addChar ch, h.stack⟩
  | chunk marker code =>
    cases hstep
    exact ⟨_, rfl, h.nodes.append_singleton nofun nofun rfl, h.stack⟩
  | openIf p condition =>
    cases hstep
    exact ⟨_, rfl, .refl [], .cons ⟨.refl _, h.nodes⟩ h.stack⟩
  | openFor p pattern iterator =>
    cases hstep
    exact ⟨_, rfl, .refl [], .cons ⟨.refl _, h.nodes⟩ h.stack⟩
  | terminator p t => exact like_of_close h hstep
  | fault f => exact absurd hstep nofun

/-- A run gives nodes that differ only in remarks. -/
theorem exists_runPieces_of_like (h : c.Like c') (hrun : runPieces c pieces = .ok nodes) :
    ∃ nodes', runPieces c' pieces = .ok nodes' ∧ dropRemarks nodes' = dropRemarks nodes := by
  induction pieces generalizing c c' with
  | nil =>
    obtain ⟨inner, stack⟩ := c
    obtain ⟨inner', stack'⟩ := c'
    obtain ⟨hnodes, hstack⟩ := h
    cases hstack with
    | nil =>
      cases hrun
      exact ⟨inner', rfl, hnodes.dropRemarks_eq⟩
    | @cons level _ _ _ _ _ =>
      obtain ⟨frame, before⟩ := level
      cases frame <;> cases hrun
  | cons piece rest ih =>
    obtain ⟨next, hstep, hrun⟩ := exists_step_of_runPieces hrun
    obtain ⟨next', hstep', hnext⟩ := like_of_step h hstep
    rw [runPieces, hstep']
    exact ih hnext hrun

end Automaton

/-! ## Behind a construct -/

/-- An open block that has a finished branch, if it is the last body of a choice. -/
def Frame.Begun : Frame → Prop
  | otherwise finished _ => finished ≠ []
  | choice _ _ _ | loop _ _ _ => True

namespace Automaton

open Node

variable {c d : Config} {p : Position} {t : Terminator} {piece : Piece} {nodes : List Node}

theorem not_endsInText_ofBranches {branches : List (Code × List Node)} (h : branches ≠ [])
    (before : List Node) (last : Alternative) :
    ¬ EndsInText (before ++ ofBranches last branches) := by
  obtain ⟨branch, rest, rfl⟩ := List.exists_cons_of_ne_nil h
  exact not_endsInText_append (n := .choice _ _ _) nofun before

/-- All last bodies of choices have branches before them. -/
def Config.Begun (c : Config) : Prop := ∀ level ∈ c.stack, level.1.Begun

/-- Behind the end or division of a block no text goes on. -/
theorem edge_of_close (hc : c.Begun) (h : c.close p t = .ok d) :
    d.Begun ∧ ¬ EndsInText d.nodes := by
  obtain ⟨nodes, stack⟩ := c
  match stack with
  | [] => exact absurd h nofun
  | (frame, before) :: stack =>
    obtain ⟨hframe, hstack⟩ := List.forall_mem_cons.1 hc
    match frame, t with
    | .choice opened finished condition, .elseIf next =>
      cases h
      exact ⟨List.forall_mem_cons.2 ⟨trivial, hstack⟩, not_endsInText_nil⟩
    | .choice opened finished condition, .otherwise =>
      cases h
      exact ⟨List.forall_mem_cons.2 ⟨List.concat_ne_nil _ _, hstack⟩, not_endsInText_nil⟩
    | .choice opened finished condition, .endIf =>
      cases h
      exact ⟨hstack, not_endsInText_ofBranches (List.concat_ne_nil _ _) before _⟩
    | .otherwise finished opened, .endIf =>
      cases h
      exact ⟨hstack, not_endsInText_ofBranches hframe before _⟩
    | .loop opened pattern iterator, .endFor =>
      cases h
      exact ⟨hstack, not_endsInText_append (n := .loop pattern iterator nodes) nofun before⟩
    | .choice opened finished condition, .endFor => exact absurd h nofun
    | .otherwise finished opened, .elseIf _ | .otherwise finished opened, .otherwise
    | .otherwise finished opened, .endFor => exact absurd h nofun
    | .loop opened pattern iterator, .elseIf _ | .loop opened pattern iterator, .otherwise
    | .loop opened pattern iterator, .endIf => exact absurd h nofun

/-- Behind a construct no text goes on. -/
theorem edge_of_step (hc : c.Begun) (h : c.step piece = .ok d) :
    d.Begun ∧ ((∀ ch, piece ≠ .char ch) → ¬ EndsInText d.nodes) := by
  cases piece with
  | char ch =>
    cases h
    exact ⟨hc, fun hpiece => absurd rfl (hpiece ch)⟩
  | chunk marker code =>
    cases h
    exact ⟨hc, fun _ => not_endsInText_append (n := .chunk marker code) nofun c.nodes⟩
  | openIf p condition =>
    cases h
    exact ⟨List.forall_mem_cons.2 ⟨trivial, hc⟩, fun _ => not_endsInText_nil⟩
  | openFor p pattern iterator =>
    cases h
    exact ⟨List.forall_mem_cons.2 ⟨trivial, hc⟩, fun _ => not_endsInText_nil⟩
  | terminator p t =>
    obtain ⟨hd, hedge⟩ := edge_of_close hc h
    exact ⟨hd, fun _ => hedge⟩
  | fault f => exact absurd h nofun

/-- What has been read when a run has come to the end of a construct. -/
theorem exists_edge_of_runPieces {front back : List Piece} (hc : c.Begun)
    (hrun : runPieces c (front ++ back) = .ok nodes) (hstart : front = [] → ¬ EndsInText c.nodes)
    (hlast : ∀ piece ∈ front.getLast?, ∀ ch, piece ≠ .char ch) :
    ∃ d : Config, ¬ EndsInText d.nodes ∧
      ∀ more, runPieces c (front ++ more) = runPieces d more := by
  induction front generalizing c with
  | nil => exact ⟨c, hstart rfl, fun more => rfl⟩
  | cons piece rest ih =>
    obtain ⟨next, hstep, hrun⟩ := exists_step_of_runPieces hrun
    obtain ⟨hnext, hedge⟩ := edge_of_step hc hstep
    have hstart' : rest = [] → ¬ EndsInText next.nodes := by
      rintro rfl
      exact hedge (hlast piece rfl)
    obtain ⟨d, hd, hmore⟩ := ih hnext hrun hstart' fun last hmem =>
      hlast last (List.mem_getLast?_cons hmem)
    refine ⟨d, hd, fun more => ?_⟩
    rw [List.cons_append, runPieces, hstep]
    exact hmore more

/-- A run does not depend on where the text begins, nor on the positions that it keeps. -/
theorem runPieces_scanFrom_iff (p q : Position) (s : List Char) :
    runPieces c (Piece.scanFrom p s) = .ok nodes ↔
      runPieces (c.relocate fun _ => .start)
        ((Piece.scanFrom q s).map (Piece.relocate fun _ => .start)) = .ok nodes := by
  have hscan : (Piece.scanFrom p s).map (Piece.relocate fun _ => .start) =
      (Piece.scanFrom q s).map (Piece.relocate fun _ => .start) :=
    Piece.scanFrom_relocate (fun _ _ _ _ => rfl) s rfl
  rw [← hscan, runPieces_relocate]
  cases runPieces c (Piece.scanFrom p s) with
  | error f => exact ⟨nofun, nofun⟩
  | ok m => exact Iff.rfl

/-- A remark behind a construct makes no difference to the other nodes. -/
theorem exists_runPieces_of_remark {n : Node} (hn : n.isRemark = true)
    (hedge : ¬ EndsInText c.nodes) (p q : Position) {s : List Char}
    (hrun : runPieces c (Piece.scanFrom p s) = .ok nodes) :
    ∃ nodes', runPieces ⟨c.nodes ++ [n], c.stack⟩ (Piece.scanFrom q s) = .ok nodes' ∧
      dropRemarks nodes' = dropRemarks nodes := by
  have hlike : (c.relocate fun _ => .start).Like
      (Config.relocate (fun _ => .start) ⟨c.nodes ++ [n], c.stack⟩) :=
    ⟨.append_remark hedge hn, List.forall₂_same.2 fun level _ => ⟨.refl level.1, .refl level.2⟩⟩
  obtain ⟨nodes', hrun', hdrop⟩ :=
    exists_runPieces_of_like hlike ((runPieces_scanFrom_iff p q s).1 hrun)
  exact ⟨nodes', (runPieces_scanFrom_iff q q s).2 hrun', hdrop⟩

end Automaton

/-! ## Templates -/

namespace Template

open Automaton

/-- With a remark behind a construct, or at the very beginning, a template is read as the same
nodes, but for remarks. -/
theorem exists_parseAt_of_remark {lineOffset : Nat} {cuts : List Cut} {rest t : List Char}
    {nodes : List Node} (hrow : Cut.InRow cuts rest)
    (hlast : ∀ cut ∈ cuts.getLast?, cut.closes = true) (ht : ¬ ['<', '}'] <:+: t)
    (h : parseAt lineOffset (Cut.sources cuts ++ rest) = .ok nodes) :
    ∃ nodes', parseAt lineOffset (Cut.sources cuts ++ ((Cut.comment t).source ++ rest)) =
        .ok nodes' ∧ Node.dropRemarks nodes' = Node.dropRemarks nodes := by
  rw [parseAt, ofPieces_eq_runPieces] at h ⊢
  generalize Position.start.below lineOffset = p at h ⊢
  have hremark : (Cut.comment t).Stands rest := Cut.stands_comment ht rest
  have hquote : ((Cut.comment t).source ++ rest).head? ≠ some '\'' := by simp [Cut.source]
  have hrow' : Cut.InRow cuts ((Cut.comment t).source ++ rest) :=
    hrow.swap hlast fun hhead => absurd hhead hquote
  obtain ⟨pieces, hpieces⟩ := Piece.exists_understood hrow (not_mem_of_runPieces h)
  rw [Piece.scanFrom_of_understood hrow hpieces] at h
  rw [Piece.scanFrom_of_understood hrow' hpieces]
  -- The run comes to the end of the construct in either template.
  have hbegun : Config.start.Begun := List.forall_mem_nil _
  obtain ⟨d, hedge, hmore⟩ := exists_edge_of_runPieces hbegun h
    (fun _ => Node.not_endsInText_nil) (Piece.ne_char_of_getLast? hpieces hlast)
  rw [hmore] at h ⊢
  obtain ⟨c, s, hs, hnext⟩ := hremark
  rw [hs, Piece.scanFrom_of_cut hnext rfl]
  exact exists_runPieces_of_remark (n := .chunk (.other "comment") _) rfl hedge _ _ h

/-- **Remarks make no code.** The code of nodes, or the failure to make it, is that of the nodes
without remarks. A template to which a remark is added at its very beginning, or right behind the
brace of a construct, is accepted if it was before, and has the same code. -/
theorem compile_remark :
    (∀ (runtime : Code) (options : Options) (nodes : List Node),
      compile runtime options (Node.dropRemarks nodes) = compile runtime options nodes) ∧
    ∀ (lineOffset : Nat) (cuts : List Cut) (rest t : List Char) (nodes : List Node),
      Cut.InRow cuts rest → (∀ cut ∈ cuts.getLast?, cut.closes = true) → ¬ ['<', '}'] <:+: t →
      parseAt lineOffset (Cut.sources cuts ++ rest) = .ok nodes →
      ∃ nodes',
        parseAt lineOffset (Cut.sources cuts ++ "\x7b>".toList ++ t ++ "<\x7d".toList ++ rest) =
          .ok nodes' ∧
        ∀ (runtime : Code) (options : Options),
          compile runtime options nodes' = compile runtime options nodes := by
  refine ⟨compile_dropRemarks, fun lineOffset cuts rest t nodes hrow hlast ht h => ?_⟩
  obtain ⟨nodes', h', hdrop⟩ := exists_parseAt_of_remark hrow hlast ht h
  refine ⟨nodes', ?_, compile_eq_of_dropRemarks_eq hdrop⟩
  rw [← h']
  simp [Cut.source]

/-- The cuts of a text and of the tag that opens a choice. -/
def opening : List Cut := [.text 't', Draft.tag "#if" ['c']]

/-- The choice goes on with a quote, and ends. -/
def ending : List Char := "'b\x7b/if\x7d".toList

/-- What would be code, or a tag, is a remark behind the tag of the choice. -/
theorem compile_remark_opening :
    ∃ nodes nodes' : List Node,
      Cut.sources opening ++ ending = "t\x7b#if c\x7d'b\x7b/if\x7d".toList ∧
      parseAt 0 (Cut.sources opening ++ ending) = .ok nodes ∧
      parseAt 0 "t\x7b#if c\x7d\x7b>@\x7b' < \x7d<\x7d'b\x7b/if\x7d".toList = .ok nodes' ∧
      (Node.bodies nodes).map (List.map Node.text?) = [[some "t", none], [some "'b"]] ∧
      compile Emit.defaultRuntime .standard nodes' =
        compile Emit.defaultRuntime .standard nodes := by
  have hmap : (Automaton.runPieces .start
      (Piece.scanFrom (Position.start.below 0) (Cut.sources opening ++ ending))).map
        (fun nodes => (Node.bodies nodes).map (List.map Node.text?)) =
          .ok [[some "t", none], [some "'b"]] := by
    decide +kernel
  obtain ⟨nodes, hrun, hbodies⟩ := Piece.exists_of_map_eq_ok hmap
  have hparse : parseAt 0 (Cut.sources opening ++ ending) = .ok nodes := by
    rw [parseAt, ofPieces_eq_runPieces]
    exact hrun
  have hclosed : Braced.Closed ['c'] := Braced.closed_quiet (forall_mem_of_all (by decide))
  have hrow : Cut.InRow opening ending :=
    .cons ⟨'t', _, rfl, rfl⟩ (.cons (Cut.stands_tag_word (by decide) hclosed ending) (.nil ending))
  have hlast : ∀ cut ∈ opening.getLast?, cut.closes = true := by
    rintro cut ⟨rfl⟩
    rfl
  obtain ⟨nodes', hparse', hcode⟩ := compile_remark.2 0 opening ending "@\x7b' < \x7d".toList nodes
    hrow hlast (by decide) hparse
  exact ⟨nodes, nodes', by decide, hparse, hparse', hbodies, hcode _ _⟩

end Template

end TextTemplate
