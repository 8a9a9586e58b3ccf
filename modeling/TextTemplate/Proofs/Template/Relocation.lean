import TextTemplate.Proofs.Template.Descent
import TextTemplate.Proofs.Template.Keywords

/-!
# Templates read from another place

A reader keeps positions, and reports them, but never looks at them. So it reads the same nodes
wherever a text begins, and what is wrong with a text is wrong wherever it begins.

- `scanFrom_of_unread`, `scanFrom_of_misread`, `scanFrom_of_cut`: the pieces of a text, cut by cut.
- `Fault.relocate`, `Piece.relocate`, `Config.relocate`: the same with all positions changed.
- `ofCut_relocate`, `scanFrom_relocate`: the pieces of a text that begins at another position.
- `step_relocate`, `runPieces_relocate`: a step and a run with other positions.
- `Template.parseAt`: the nodes of a template that begins on a later line of a file.
- `Template.parseAt_eq`: they are the nodes of the template, and a fault is on a later line.
- `Template.parseAt_eq_error_iff`: what is wrong with a template is wrong on every line.
-/

namespace TextTemplate

/-- The same fault at another place. -/
def Fault.relocate (f : Position → Position) (e : Fault) : Fault :=
  { e with position := f e.position }

/-! ## Pieces -/

namespace Piece

variable {p q : Position} {c : Char} {s rest : List Char} {cut : Cut} {cause : Cause}
  {piece : Piece}

/-- A front that is no cut is the last piece. -/
theorem scanFrom_of_unread (h : Cut.next c s = .error cause) :
    scanFrom p (c :: s) = [fault ⟨p, cause⟩] := by
  rw [scanFrom]
  split
  · next e he =>
    cases h.symm.trans he
    rfl
  · next he => cases h.symm.trans he

/-- A cut that is not understood is the last piece. -/
theorem scanFrom_of_misread (h : Cut.next c s = .ok (cut, rest))
    (hcut : ofCut p cut = .error cause) : scanFrom p (c :: s) = [fault ⟨p, cause⟩] := by
  rw [scanFrom]
  split
  · next he => cases h.symm.trans he
  · next he =>
    cases h.symm.trans he
    rw [hcut]

/-- A cut that is understood is the first piece. -/
theorem scanFrom_of_cut (h : Cut.next c s = .ok (cut, rest)) (hcut : ofCut p cut = .ok piece) :
    scanFrom p (c :: s) = piece :: scanFrom (p.afterAll cut.source) rest := by
  rw [scanFrom]
  split
  · next he => cases h.symm.trans he
  · next he =>
    cases h.symm.trans he
    rw [hcut]

/-- The same piece at another place. -/
def relocate (f : Position → Position) : Piece → Piece
  | char c => char c
  | chunk marker code => chunk marker code
  | openIf p condition => openIf (f p) condition
  | openFor p pattern iterator => openFor (f p) pattern iterator
  | terminator p t => terminator (f p) t
  | fault e => fault (e.relocate f)

variable {f g : Position → Position}

/-- The table of tags is the same at every place. -/
theorem ofWords?_relocate (f : Position → Position) (p : Position) (word rest : List Char) :
    ofWords? (f p) word rest = (ofWords? p word rest).map (Except.map (relocate f)) := by
  unfold ofWords?
  generalize String.ofList word = word
  split
  case h_1 =>
    split
    · rfl
    · cases lex rest <;> rfl
  case h_2 => cases lex rest >>= loopHead <;> rfl
  case h_3 =>
    split
    · rfl
    split
    · split
      · rfl
      · cases lex (Text.afterWord rest) <;> rfl
    · rfl
  case h_4 | h_5 => split <;> rfl
  case h_6 => cases expression rest <;> rfl
  case h_7 => cases binding rest <;> rfl
  case h_8 => rfl

/-- Whether a tag is understood does not depend on its place. -/
theorem ofTag_relocate (f : Position → Position) (p : Position) (tag : List Char) :
    ofTag (f p) tag = (ofTag p tag).map (relocate f) := by
  rw [ofTag_eq, ofTag_eq, ofWords?_relocate]
  cases ofWords? p _ _ <;> rfl

/-- Whether a cut is understood does not depend on its place. -/
theorem ofCut_relocate (f : Position → Position) (p : Position) (cut : Cut) :
    ofCut (f p) cut = (ofCut p cut).map (relocate f) := by
  cases cut with
  | text c => rfl
  | doubledAt => rfl
  | output t =>
    show (expression t).map _ = ((expression t).map _).map _
    cases expression t <;> rfl
  | comment t => rfl
  | tag t => exact ofTag_relocate f p t

/-- The pieces of a text that begins at another position are the same at other positions. Two
changes of positions are compared, so that one may forget what the other one keeps. -/
theorem scanFrom_relocate (hfg : ∀ p q c, f p = g q → f (p.after c) = g (q.after c))
    (s : List Char) (h : f p = g q) :
    (scanFrom p s).map (relocate f) = (scanFrom q s).map (relocate g) := by
  have hall (t : List Char) : ∀ p q, f p = g q → f (p.afterAll t) = g (q.afterAll t) := by
    induction t with
    | nil => exact fun _ _ h => h
    | cons c t ih => exact fun p q h => ih _ _ (hfg p q c h)
  have hcuts (p q : Position) (h : f p = g q) (cut : Cut) :
      (ofCut p cut).map (relocate f) = (ofCut q cut).map (relocate g) := by
    rw [← ofCut_relocate, ← ofCut_relocate, h]
  -- The cuts are the same from either position, and so is whether they are understood.
  fun_induction scanFrom p s generalizing q with
  | case1 p =>
    rw [scanFrom]
    rfl
  | case2 p c s cause hnext =>
    rw [scanFrom_of_unread hnext]
    show [fault (Fault.mk (f p) cause)] = [fault (Fault.mk (g q) cause)]
    rw [h]
  | case3 p c s cut rest hnext cause hcut =>
    have hcuts := hcuts p q h cut
    cases hcut' : ofCut q cut with
    | ok piece =>
      rw [hcut, hcut'] at hcuts
      cases hcuts
    | error cause' =>
      rw [hcut, hcut'] at hcuts
      cases hcuts
      rw [scanFrom_of_misread hnext hcut']
      show [fault (Fault.mk (f p) cause)] = [fault (Fault.mk (g q) cause)]
      rw [h]
  | case4 p c s cut rest hnext piece hcut ih =>
    have hcuts := hcuts p q h cut
    cases hcut' : ofCut q cut with
    | error cause =>
      rw [hcut, hcut'] at hcuts
      cases hcuts
    | ok piece' =>
      rw [hcut, hcut'] at hcuts
      have hpiece : piece.relocate f = piece'.relocate g := Except.ok.inj hcuts
      rw [scanFrom_of_cut hnext hcut', List.map_cons, List.map_cons, hpiece, ih (hall _ _ _ h)]

end Piece

/-! ## Runs -/

/-- The same open block, with other positions. -/
def Frame.relocate (f : Position → Position) : Frame → Frame
  | choice p finished condition => choice (f p) finished condition
  | otherwise finished p => otherwise finished (f p)
  | loop p pattern iterator => loop (f p) pattern iterator

namespace Automaton

variable (f : Position → Position)

/-- The same nodes and open blocks, with other positions. -/
def Config.relocate (c : Config) : Config :=
  ⟨c.nodes, c.stack.map fun (frame, before) => (frame.relocate f, before)⟩

/-- What a run gives, with other positions. -/
def relocated {α β : Type} (g : α → β) : Except Fault α → Except Fault β
  | .ok a => .ok (g a)
  | .error e => .error (e.relocate f)

theorem close_relocate (c : Config) (p : Position) (t : Terminator) :
    (c.relocate f).close (f p) t = relocated f (Config.relocate f) (c.close p t) := by
  obtain ⟨nodes, stack⟩ := c
  match stack with
  | [] => rfl
  | (.choice opened finished condition, before) :: stack => cases t <;> rfl
  | (.otherwise finished opened, before) :: stack => cases t <;> rfl
  | (.loop opened pattern iterator, before) :: stack => cases t <;> rfl

/-- A step does not look at positions. -/
theorem step_relocate (c : Config) (piece : Piece) :
    (c.relocate f).step (piece.relocate f) = relocated f (Config.relocate f) (c.step piece) := by
  cases piece with
  | char ch => rfl
  | chunk marker code => rfl
  | openIf p condition => rfl
  | openFor p pattern iterator => rfl
  | terminator p t => exact close_relocate f c p t
  | fault e => rfl

theorem finish_relocate (c : Config) : (c.relocate f).finish = relocated f id c.finish := by
  obtain ⟨nodes, stack⟩ := c
  match stack with
  | [] => rfl
  | (.choice _ _ _, _) :: _ | (.otherwise _ _, _) :: _ | (.loop _ _ _, _) :: _ => rfl

/-- A run does not look at positions. -/
theorem runPieces_relocate (c : Config) (pieces : List Piece) :
    runPieces (c.relocate f) (pieces.map (Piece.relocate f)) =
      relocated f id (runPieces c pieces) := by
  induction pieces generalizing c with
  | nil => exact finish_relocate f c
  | cons piece rest ih =>
    rw [List.map_cons, runPieces, runPieces, step_relocate]
    cases c.step piece with
    | error e => rfl
    | ok next => exact ih next

end Automaton

/-! ## Templates on later lines -/

/-- The same place in a text that has lines before it. -/
def Position.below (lineOffset : Nat) (p : Position) : Position :=
  { p with line := p.line + lineOffset }

theorem Position.below_after (lineOffset : Nat) (p : Position) (c : Char) :
    (p.after c).below lineOffset = (p.below lineOffset).after c := by
  unfold after below
  split
  · rw [Nat.add_right_comm]
  · rfl

/-- The fault in a template that has lines before it. -/
def Fault.below (lineOffset : Nat) (f : Fault) : Fault := f.relocate (.below lineOffset)

namespace Template

/-- The nodes of a template with `lineOffset` lines before it, if the reader counts these lines from
the beginning and keeps every position with them. -/
def parseAt (lineOffset : Nat) (s : List Char) : Except Fault (List Node) :=
  Node.ofPieces (Piece.scanFrom (Position.start.below lineOffset) s)

/-- It makes no difference whether the lines before a template are counted from the beginning, or
only when something is wrong. -/
theorem parseAt_eq (lineOffset : Nat) (s : List Char) :
    parseAt lineOffset s = (parse s).mapError (Fault.below lineOffset) := by
  have hscan : (Piece.scan s).map (Piece.relocate (.below lineOffset)) =
      (Piece.scanFrom (Position.start.below lineOffset) s).map (Piece.relocate id) :=
    Piece.scanFrom_relocate (fun p q c h => by rw [Position.below_after, h]; rfl) s rfl
  have hid : Piece.relocate id = id := by
    funext piece
    cases piece <;> rfl
  rw [hid, List.map_id] at hscan
  have hrun := Automaton.runPieces_relocate (.below lineOffset) .start (Piece.scan s)
  rw [parseAt, Automaton.ofPieces_eq_runPieces, ← hscan, Automaton.parse_eq_runPieces]
  refine hrun.trans ?_
  cases Automaton.runPieces .start (Piece.scan s) <;> rfl

/-- What is wrong with a template is wrong on every line. -/
theorem parseAt_eq_error_iff (lineOffset : Nat) {s : List Char} {f : Fault} :
    parseAt lineOffset s = .error f ↔ ∃ e, parse s = .error e ∧ e.below lineOffset = f := by
  rw [parseAt_eq]
  cases parse s with
  | ok nodes => exact ⟨nofun, nofun⟩
  | error e =>
    constructor
    · intro h
      exact ⟨e, rfl, Except.error.inj h⟩
    · rintro ⟨_, he, rfl⟩
      cases he
      rfl

end Template

end TextTemplate
