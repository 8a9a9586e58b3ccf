import TextTemplate.Template.Node

/-!
# Templates read with an explicit stack

A second reader of templates, which does not call itself: it walks over the text once, from left to
right, and keeps the blocks that are open on a stack.

- `Automaton.front`: what stands at the front of a text, one construct at a time.
- `Frame`: a block that is open; `Automaton.Config`: the stack of them, each level with its nodes.
- `Config.step`: what one construct does to the stack; `Config.finish`: the end of the text.
- `Automaton.run`: the reader of a text.
- `run_eq_runPieces`: the reader takes the steps of the pieces of a text, one after the other.
-/

namespace TextTemplate

/-- A block that is open, with what has been read of it. -/
inductive Frame
  /-- A choice that was opened at a position: its finished branches and the condition of the branch
  that is being read. -/
  | choice (position : Position) (finished : List (Code × List Node)) (condition : Code)
  /-- The last body of a choice: the finished branches, and the position of the tag before it. -/
  | otherwise (finished : List (Code × List Node)) (position : Position)
  /-- A loop that was opened at a position. -/
  | loop (position : Position) (pattern iterator : Code)

namespace Alternative

/-- Branches, one after the other, and what is chosen after them. -/
def ofBranches (last : Alternative) : List (Code × List Node) → Alternative
  | [] => last
  | (condition, body) :: rest => .elseIf condition body (ofBranches last rest)

@[simp] theorem ofBranches_nil (last : Alternative) : ofBranches last [] = last := rfl

@[simp] theorem ofBranches_cons (last : Alternative) (condition : Code) (body : List Node)
    (rest : List (Code × List Node)) :
    ofBranches last ((condition, body) :: rest) = .elseIf condition body (ofBranches last rest) :=
  rfl

theorem ofBranches_append (last : Alternative) (front back : List (Code × List Node)) :
    ofBranches last (front ++ back) = ofBranches (ofBranches last back) front := by
  induction front with
  | nil => rfl
  | cons branch rest ih =>
    obtain ⟨condition, body⟩ := branch
    rw [List.cons_append, ofBranches_cons, ofBranches_cons, ih]

end Alternative

namespace Node

/-- The choice with some branches and a last alternative. Without a branch there is no choice. -/
def ofBranches (last : Alternative) : List (Code × List Node) → List Node
  | [] => []
  | (condition, body) :: rest => [choice condition body (.ofBranches last rest)]

/-- What a branch that is followed by others contributes to a choice. -/
theorem ofBranches_append (last : Alternative) (front back : List (Code × List Node))
    (h : front ≠ []) :
    ofBranches last (front ++ back) = ofBranches (.ofBranches last back) front := by
  cases front with
  | nil => exact absurd rfl h
  | cons branch rest =>
    obtain ⟨condition, body⟩ := branch
    show [choice condition body (.ofBranches last (rest ++ back))] = _
    rw [Alternative.ofBranches_append]
    rfl

/-- Adds a character after nodes: to the text at their end, or as a new text. -/
def addChar (c : Char) : List Node → List Node
  | [] => [text (String.singleton c)]
  | [text s] => [text (s.push c)]
  | n :: rest => n :: addChar c rest

end Node

namespace Automaton

/-! ## Constructs -/

/-- Text in braces at the front of a text, made a piece. -/
def braced (bracing : Bracing) (make : List Char → Except Cause Piece) (s : List Char) :
    Except Cause (Piece × List Char) :=
  match Braced.read s with
  | .error e => .error (Cut.causeOf bracing e)
  | .ok (inside, rest) => (make inside).map (·, rest)

/-- What stands at the front of a text that begins with a character, at a position, and what
follows it. -/
def front (p : Position) (c : Char) (s : List Char) : Except Cause (Piece × List Char) :=
  match c, s with
  | '@', '@' :: s => .ok (.char '@', s)
  | '@', '{' :: s => braced .output (fun t => (Piece.expression t).map (.chunk .output)) s
  | '{', '>' :: s =>
    match Cut.splitComment? s with
    | some (t, rest) => .ok (Piece.ofComment t, rest)
    | none => .error .unclosedComment
  | '{', '#' :: _ | '{', ':' :: _ | '{', '/' :: _ | '{', '$' :: _ => braced .tag (Piece.ofTag p) s
  | c, s => .ok (.char c, s)

/-- A cut, made a piece. -/
def understand (p : Position) (cut : Except Cause (Cut × List Char)) :
    Except Cause (Piece × List Char) :=
  match cut with
  | .error cause => .error cause
  | .ok (cut, rest) => (Piece.ofCut p cut).map (·, rest)

theorem understand_braced (p : Position) (bracing : Bracing) (cut : List Char → Cut)
    (s : List Char) :
    understand p (Cut.braced bracing cut s) =
      braced bracing (fun t => Piece.ofCut p (cut t)) s := by
  unfold Cut.braced braced
  cases Braced.read s with
  | error e => rfl
  | ok r => rfl

theorem understand_tag (p : Position) {s : List Char}
    (h : Cut.next '{' s = Cut.braced .tag .tag s) :
    braced .tag (Piece.ofTag p) s = understand p (Cut.next '{' s) := by
  rw [h]
  exact (understand_braced p .tag .tag s).symm

/-- A construct is a cut of the text that is understood at once. -/
theorem front_eq_understand (p : Position) (c : Char) (s : List Char) :
    front p c s = understand p (Cut.next c s) := by
  unfold front
  split
  · rfl
  · next s => exact (understand_braced p .output .output s).symm
  · next s =>
    show _ = understand p (match Cut.splitComment? s with
      | some (t, r) => .ok (.comment t, r)
      | none => .error .unclosedComment)
    cases Cut.splitComment? s with
    | none => rfl
    | some r => rfl
  · exact understand_tag p rfl
  · exact understand_tag p rfl
  · exact understand_tag p rfl
  · exact understand_tag p rfl
  · next h₁ h₂ h₃ h₄ h₅ h₆ h₇ =>
    have hc : Cut.next c s = .ok (.text c, s) := by
      unfold Cut.next
      split
      · subst c
        split
        · exact absurd rfl (h₁ _ rfl)
        · exact absurd rfl (h₂ _ rfl)
        · rfl
      · split
        · subst c
          split
          · exact absurd rfl (h₃ _ rfl)
          · next d r _ =>
            have hd : d ∉ Cut.tagSigns := by
              intro hd
              simp [Cut.tagSigns] at hd
              rcases hd with rfl | rfl | rfl | rfl
              · exact absurd rfl (h₄ _ rfl)
              · exact absurd rfl (h₅ _ rfl)
              · exact absurd rfl (h₆ _ rfl)
              · exact absurd rfl (h₇ _ rfl)
            rw [if_neg hd]
          · rfl
        · rfl
    rw [hc]
    rfl

theorem exists_cut_of_front {p : Position} {c : Char} {s rest : List Char} {piece : Piece}
    (h : front p c s = .ok (piece, rest)) :
    ∃ cut, Cut.next c s = .ok (cut, rest) ∧ Piece.ofCut p cut = .ok piece := by
  rw [front_eq_understand] at h
  unfold understand at h
  split at h
  · exact absurd h (by simp)
  · next cut r hn =>
    cases hp : Piece.ofCut p cut with
    | error cause =>
      rw [hp] at h
      exact absurd h (by simp [Except.map])
    | ok q =>
      rw [hp] at h
      obtain ⟨rfl, rfl⟩ : q = piece ∧ r = rest := by simpa [Except.map] using h
      exact ⟨cut, hn, hp⟩

/-- What follows a construct is shorter than the text. -/
theorem length_of_front {p : Position} {c : Char} {s rest : List Char} {piece : Piece}
    (h : front p c s = .ok (piece, rest)) : rest.length ≤ s.length := by
  obtain ⟨cut, hcut, -⟩ := exists_cut_of_front h
  exact Cut.length_of_next hcut

/-! ## Steps -/

/-- What has been read: the nodes of the innermost level, and the open blocks, innermost first, each
with the nodes before it on the level around it. -/
structure Config where
  nodes : List Node
  stack : List (Frame × List Node)

namespace Config

/-- Nothing has been read. -/
def start : Config := ⟨[], []⟩

/-- Reads the end or division of a block, which has to belong to the innermost one. -/
def close (p : Position) (t : Terminator) : Config → Except Fault Config
  | ⟨nodes, (.choice opened finished condition, before) :: stack⟩ =>
    match t with
    | .elseIf next =>
      .ok ⟨[], (.choice opened (finished ++ [(condition, nodes)]) next, before) :: stack⟩
    | .otherwise => .ok ⟨[], (.otherwise (finished ++ [(condition, nodes)]) p, before) :: stack⟩
    | .endIf => .ok ⟨before ++ Node.ofBranches .nothing (finished ++ [(condition, nodes)]), stack⟩
    | .endFor => .error ⟨p, .unexpected .endFor⟩
  | ⟨nodes, (.otherwise finished _, before) :: stack⟩ =>
    match t with
    | .endIf => .ok ⟨before ++ Node.ofBranches (.otherwise nodes) finished, stack⟩
    | t => .error ⟨p, .unexpected t.divider⟩
  | ⟨nodes, (.loop _ pattern iterator, before) :: stack⟩ =>
    match t with
    | .endFor => .ok ⟨before ++ [.loop pattern iterator nodes], stack⟩
    | t => .error ⟨p, .unexpected t.divider⟩
  | ⟨_, []⟩ => .error ⟨p, .unexpected t.divider⟩

/-- Reads one piece. -/
def step (c : Config) : Piece → Except Fault Config
  | .char ch => .ok { c with nodes := Node.addChar ch c.nodes }
  | .chunk marker code => .ok { c with nodes := c.nodes ++ [.chunk marker code] }
  | .openIf p condition => .ok ⟨[], (.choice p [] condition, c.nodes) :: c.stack⟩
  | .openFor p pattern iterator => .ok ⟨[], (.loop p pattern iterator, c.nodes) :: c.stack⟩
  | .terminator p t => c.close p t
  | .fault f => .error f

/-- The end of the text: no block may be open, and the innermost one is reported. -/
def finish (c : Config) : Except Fault (List Node) :=
  match c.stack with
  | [] => .ok c.nodes
  | (.choice p _ _, _) :: _ => .error ⟨p, .unclosedIf⟩
  | (.otherwise _ p, _) :: _ => .error ⟨p, .unclosedElse⟩
  | (.loop p _ _, _) :: _ => .error ⟨p, .unclosedFor⟩

end Config

/-! ## Runs -/

/-- Reads the pieces of a text. -/
def runPieces (c : Config) : List Piece → Except Fault (List Node)
  | [] => c.finish
  | piece :: rest =>
    match c.step piece with
    | .error f => .error f
    | .ok c => runPieces c rest

/-- Reads a text that begins at a position. -/
def run (p : Position) (c : Config) : List Char → Except Fault (List Node)
  | [] => c.finish
  | ch :: s =>
    match _h : front p ch s with
    | .error cause => .error ⟨p, cause⟩
    | .ok (piece, rest) =>
      match c.step piece with
      | .error f => .error f
      | .ok c => run (p.afterAll ((ch :: s).take (s.length + 1 - rest.length))) c rest
termination_by s => s.length
decreasing_by
  have := length_of_front _h
  simp
  omega

/-- A construct that is wrong is the last piece. -/
theorem scanFrom_of_error {p : Position} {c : Char} {s : List Char} {cause : Cause}
    (h : front p c s = .error cause) : Piece.scanFrom p (c :: s) = [.fault ⟨p, cause⟩] := by
  rw [front_eq_understand] at h
  rw [Piece.scanFrom]
  split
  · next e hn =>
    rw [hn] at h
    obtain rfl : e = cause := by simpa [understand] using h
    rfl
  · next cut rest hn =>
    rw [hn] at h
    split
    · next e hp =>
      obtain rfl : e = cause := by simpa [understand, hp, Except.map] using h
      rfl
    · next q hp => exact absurd h (by simp [understand, hp, Except.map])

/-- A construct is the first piece, and the others are those of what follows. -/
theorem scanFrom_of_ok {p : Position} {c : Char} {s rest : List Char} {piece : Piece}
    (h : front p c s = .ok (piece, rest)) :
    Piece.scanFrom p (c :: s) =
      piece :: Piece.scanFrom (p.afterAll ((c :: s).take (s.length + 1 - rest.length))) rest := by
  obtain ⟨cut, hcut, hpiece⟩ := exists_cut_of_front h
  have hs : (c :: s).take (s.length + 1 - rest.length) = cut.source := by
    have happ := Cut.append_of_next hcut
    have hlen : s.length + 1 - rest.length = cut.source.length := by
      have := congrArg List.length happ
      simp at this
      omega
    rw [hlen, ← happ, List.take_left']
    rfl
  rw [hs, Piece.scanFrom]
  split
  · next e hn => exact absurd hn (by simp [hcut])
  · next cut' rest' hn =>
    obtain ⟨rfl, rfl⟩ : cut = cut' ∧ rest = rest' := by simpa [hcut] using hn
    rw [hpiece]

/-- Reading a text takes the steps of its pieces, one after the other. -/
theorem run_eq_runPieces (p : Position) (c : Config) (s : List Char) :
    run p c s = runPieces c (Piece.scanFrom p s) := by
  fun_induction run p c s with
  | case1 p c =>
    rw [Piece.scanFrom]
    rfl
  | case2 p c ch s cause h =>
    rw [scanFrom_of_error h]
    rfl
  | case3 p c ch s piece rest h f hf =>
    rw [scanFrom_of_ok h]
    simp only [runPieces, hf]
  | case4 p c ch s piece rest h c' hc ih =>
    rw [scanFrom_of_ok h, ih]
    simp only [runPieces, hc]

end Automaton

end TextTemplate
