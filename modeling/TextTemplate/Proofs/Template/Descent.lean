import TextTemplate.Proofs.Template.Automaton

/-!
# Recursive descent and the explicit stack

The readers of `Node.ofPieces` call each other once for every block, and tell each other where to
stop; the automaton keeps the same knowledge on its stack. Both read every template alike.

- `Automaton.stops`: where the reader of the innermost level stops, read off the stack.
- `Automaton.resume`: how the automaton goes on after one of the readers.
- `runPieces_eq_resume`, `runPieces_eq_branches`: the steps of the automaton on one level are what
  the reader of that level does. The two are proved together, along the recursion of the readers.
- `parse_eq_run`: the main statement.
-/

namespace TextTemplate

namespace Automaton

open Node

/-! ## Texts -/

/-- Whether the pieces that follow nodes cannot add to the text at their end. -/
def Apart (nodes : List Node) (pieces : List Piece) : Prop :=
  (∀ s, nodes.getLast? ≠ some (.text s)) ∨ ∀ c rest, pieces ≠ .char c :: rest

theorem apart_nil (pieces : List Piece) : Apart [] pieces := by
  left
  intro s
  simp

theorem apart_append_singleton (nodes : List Node) {n : Node} (pieces : List Piece)
    (h : ∀ s, n ≠ .text s) : Apart (nodes ++ [n]) pieces := by
  left
  intro s
  rw [List.getLast?_concat]
  exact fun e => h s (Option.some.inj e)

theorem addChar_append_text (c : Char) (nodes : List Node) (s : String) :
    addChar c (nodes ++ [text s]) = nodes ++ [text (s.push c)] := by
  induction nodes with
  | nil => rfl
  | cons n rest ih =>
    rw [List.cons_append, addChar, ih]
    · rfl
    · intro t hn hrest
      exact absurd hrest (by simp)

theorem addChar_of_not_text (c : Char) (nodes : List Node)
    (h : ∀ s, nodes.getLast? ≠ some (text s)) :
    addChar c nodes = nodes ++ [text (String.singleton c)] := by
  induction nodes with
  | nil => rfl
  | cons n rest ih =>
    cases rest with
    | nil =>
      rw [addChar]
      · rfl
      · rintro s rfl -
        exact h s rfl
    | cons m rest =>
      rw [addChar, ih]
      · rfl
      · intro s hs
        exact h s (by rwa [List.getLast?_cons_cons])
      · intro s hn hrest
        exact absurd hrest (by simp)

theorem singleton_append_ofList (c : Char) (s : List Char) :
    String.ofList (c :: s) = String.singleton c ++ String.ofList s := by
  apply String.toList_injective
  simp

/-- Characters after a text make it longer until something else comes. -/
theorem runPieces_text (nodes : List Node) (stack : List (Frame × List Node)) (s : String)
    (pieces : List Piece) :
    runPieces ⟨nodes ++ [text s], stack⟩ pieces =
      runPieces ⟨nodes ++ [text (s ++ String.ofList (leadingText pieces).1)], stack⟩
        (leadingText pieces).2 := by
  induction pieces generalizing s with
  | nil => simp [leadingText]
  | cons piece rest ih =>
    cases piece with
    | char c =>
      rw [leadingText]
      show runPieces ⟨addChar c (nodes ++ [text s]), stack⟩ rest = _
      rw [addChar_append_text, ih]
      have hs : s.push c ++ String.ofList (leadingText rest).1 =
          s ++ String.ofList (c :: (leadingText rest).1) := by
        apply String.toList_injective
        simp
      rw [hs]
    | _ => simp [leadingText]

theorem leadingText_ne_char (pieces : List Piece) (c : Char) (rest : List Piece) :
    (leadingText pieces).2 ≠ .char c :: rest := by
  fun_induction leadingText pieces with
  | case1 d more s after h ih => rwa [h] at ih
  | case2 pieces h => exact fun e => h c rest e

/-! ## Equations of the readers -/

/-- Puts a node before what was read from the pieces after it. -/
def prepend {size size' : Nat} (n : Node) (h : size < size') (read : Except Fault (Body size)) :
    Except Fault (Body size') :=
  read.map fun b => b.prepend (n :: ·) h

theorem body_char (f : Terminator → Bool) (c : Char) (rest : List Piece) :
    body f (.char c :: rest) =
      prepend (text (String.ofList (c :: (leadingText rest).1)))
        (Nat.lt_succ_of_le (length_leadingText rest)) (body f (leadingText rest).2) := by
  rw [body]
  cases body f (leadingText rest).2 <;> rfl

theorem body_chunk (f : Terminator → Bool) (marker : Marker) (code : Code) (rest : List Piece) :
    body f (.chunk marker code :: rest) =
      prepend (chunk marker code) (Nat.lt_succ_self _) (body f rest) := by
  rw [body]
  cases body f rest <;> rfl

theorem body_openIf (f : Terminator → Bool) (p : Position) (condition : Code)
    (rest : List Piece) :
    body f (.openIf p condition :: rest) =
      match branches p rest with
      | .ok chain => prepend (choice condition chain.nodes chain.alternative)
          (Nat.lt_succ_of_le chain.length_le) (body f chain.rest)
      | .error e => .error e := by
  rw [body]
  cases branches p rest with
  | error e => rfl
  | ok chain =>
    dsimp only
    cases body f chain.rest <;> rfl

theorem body_openFor (f : Terminator → Bool) (p : Position) (pattern iterator : Code)
    (rest : List Piece) :
    body f (.openFor p pattern iterator :: rest) =
      match body stopsLoop rest with
      | .ok inner =>
        if inner.stop.isSome then
          prepend (loop pattern iterator inner.nodes) (Nat.lt_succ_of_le inner.length_le)
            (body f inner.rest)
        else .error ⟨p, .unclosedFor⟩
      | .error e => .error e := by
  rw [body]
  cases body stopsLoop rest with
  | error e => rfl
  | ok inner =>
    dsimp only
    cases body f inner.rest <;> rfl

/-- Nodes that are put before a body do not change where it stops. -/
theorem exists_of_prepend {size size' : Nat} {read : Except Fault (Body size)} {n : Node}
    {h : size < size'} {b : Body size'} (hb : prepend n h read = .ok b) :
    ∃ b', read = .ok b' ∧ b'.stop = b.stop := by
  cases read with
  | error e => exact absurd hb (by simp [prepend, Except.map])
  | ok b' =>
    cases hb
    exact ⟨b', rfl, rfl⟩

/-! ## Levels -/

/-- Where the reader of the innermost level stops. -/
def stops : List (Frame × List Node) → Terminator → Bool
  | [] => fun _ => false
  | (.choice _ _ _, _) :: _ => stopsBranch
  | (.otherwise _ _, _) :: _ => stopsElse
  | (.loop _ _ _, _) :: _ => stopsLoop

/-- A terminator at which the innermost level does not stop is wrong. -/
theorem close_of_not_stops {nodes : List Node} {stack : List (Frame × List Node)} {p : Position}
    {t : Terminator} (h : stops stack t = false) :
    Config.close p t ⟨nodes, stack⟩ = .error ⟨p, .unexpected t.divider⟩ := by
  match stack, t with
  | [], _ => rfl
  | (.choice _ _ _, _) :: _, .endFor => rfl
  | (.choice _ _ _, _) :: _, .elseIf _ | (.choice _ _ _, _) :: _, .otherwise
  | (.choice _ _ _, _) :: _, .endIf => exact absurd h (by simp [stops, stopsBranch])
  | (.otherwise _ _, _) :: _, .elseIf _ | (.otherwise _ _, _) :: _, .otherwise
  | (.otherwise _ _, _) :: _, .endFor => rfl
  | (.otherwise _ _, _) :: _, .endIf => exact absurd h (by simp [stops, stopsElse])
  | (.loop _ _ _, _) :: _, .elseIf _ | (.loop _ _ _, _) :: _, .otherwise
  | (.loop _ _ _, _) :: _, .endIf => rfl
  | (.loop _ _ _, _) :: _, .endFor => exact absurd h (by simp [stops, stopsLoop])

/-- A reader only stops where it was told to. -/
theorem stops_of_body {f : Terminator → Bool} {pieces : List Piece} {b : Body pieces.length}
    {p : Position} {t : Terminator} (h : body f pieces = .ok b) (hs : b.stop = some (p, t)) :
    f t = true := by
  match pieces with
  | [] =>
    rw [body] at h
    cases h
    exact absurd hs (by simp)
  | .char c :: rest =>
    have := length_leadingText rest
    rw [body_char] at h
    obtain ⟨b', hb, hs'⟩ := exists_of_prepend h
    exact stops_of_body hb (hs'.trans hs)
  | .chunk marker code :: rest =>
    rw [body_chunk] at h
    obtain ⟨b', hb, hs'⟩ := exists_of_prepend h
    exact stops_of_body hb (hs'.trans hs)
  | .openIf q condition :: rest =>
    rw [body_openIf] at h
    split at h
    · next chain hc =>
      have := chain.length_le
      obtain ⟨b', hb, hs'⟩ := exists_of_prepend h
      exact stops_of_body hb (hs'.trans hs)
    · exact absurd h (by simp)
  | .openFor q pattern iterator :: rest =>
    rw [body_openFor] at h
    split at h
    · next inner hi =>
      have := inner.length_le
      split at h
      · obtain ⟨b', hb, hs'⟩ := exists_of_prepend h
        exact stops_of_body hb (hs'.trans hs)
      · exact absurd h (by simp)
    · exact absurd h (by simp)
  | .terminator q u :: rest =>
    rw [body] at h
    split at h
    · next hu =>
      cases h
      obtain ⟨-, rfl⟩ : q = p ∧ u = t := by simpa using hs
      exact hu
    · exact absurd h (by simp)
  | .fault e :: rest =>
    rw [body] at h
    exact absurd h (by simp)
termination_by pieces.length
decreasing_by
  all_goals
    simp only [List.length_cons]
    omega

/-! ## Steps of a level -/

/-- How the automaton goes on when the reader of the innermost level has read a body. -/
def resume (c : Config) {size : Nat} : Except Fault (Body size) → Except Fault (List Node)
  | .error f => .error f
  | .ok b =>
    match b.stop with
    | none => Config.finish ⟨c.nodes ++ b.nodes, c.stack⟩
    | some (p, t) => runPieces ⟨c.nodes ++ b.nodes, c.stack⟩ (.terminator p t :: b.rest)

/-- A node that the reader puts before a body is one that the automaton has already read. -/
theorem resume_prepend (nodes : List Node) (stack : List (Frame × List Node)) (n : Node)
    {size size' : Nat} (h : size < size') (read : Except Fault (Body size)) :
    resume ⟨nodes, stack⟩ (prepend n h read) = resume ⟨nodes ++ [n], stack⟩ read := by
  cases read with
  | error f => rfl
  | ok b =>
    have hnodes : nodes ++ n :: b.nodes = nodes ++ [n] ++ b.nodes := by simp
    show resume ⟨nodes, stack⟩ (.ok ⟨n :: b.nodes, b.stop, b.rest, _, _⟩) = _
    simp only [resume, hnodes]

mutual

/-- On one level the automaton does what the reader of that level does. -/
theorem runPieces_eq_resume (nodes : List Node) (stack : List (Frame × List Node))
    (pieces : List Piece) (h : Apart nodes pieces) :
    runPieces ⟨nodes, stack⟩ pieces = resume ⟨nodes, stack⟩ (body (stops stack) pieces) := by
  match pieces with
  | [] =>
    rw [body]
    show Config.finish ⟨nodes, stack⟩ = Config.finish ⟨nodes ++ [], stack⟩
    rw [List.append_nil]
  | .char c :: rest =>
    have hnodes : ∀ s, nodes.getLast? ≠ some (.text s) :=
      h.resolve_right fun e => e c rest rfl
    have hrest : Apart (nodes ++ [text (String.ofList (c :: (leadingText rest).1))])
        (leadingText rest).2 := .inr (leadingText_ne_char rest)
    have := length_leadingText rest
    show runPieces ⟨addChar c nodes, stack⟩ rest = _
    rw [addChar_of_not_text c nodes hnodes, runPieces_text, ← singleton_append_ofList,
      runPieces_eq_resume _ stack _ hrest, body_char, resume_prepend]
  | .chunk marker code :: rest =>
    show runPieces ⟨nodes ++ [.chunk marker code], stack⟩ rest = _
    rw [runPieces_eq_resume _ stack rest (apart_append_singleton nodes rest (by simp)),
      body_chunk, resume_prepend]
  | .openIf p condition :: rest =>
    show runPieces ⟨[], (.choice p [] condition, nodes) :: stack⟩ rest = _
    rw [runPieces_eq_branches, body_openIf]
    cases branches p rest with
    | error f => rfl
    | ok chain =>
      have := chain.length_le
      show runPieces ⟨nodes ++ [choice condition chain.nodes chain.alternative], stack⟩
        chain.rest = _
      rw [runPieces_eq_resume _ stack _ (apart_append_singleton nodes _ (by simp))]
      exact (resume_prepend nodes stack _ _ _).symm
  | .openFor p pattern iterator :: rest =>
    show runPieces ⟨[], (.loop p pattern iterator, nodes) :: stack⟩ rest = _
    rw [runPieces_eq_resume [] _ rest (apart_nil rest), body_openFor]
    show resume _ (body stopsLoop rest) = _
    cases hi : body stopsLoop rest with
    | error f => rfl
    | ok inner =>
      obtain ⟨inside, stop, after, hle, hlt⟩ := inner
      match stop with
      | none => rfl
      | some (q, .endFor) =>
        show runPieces ⟨nodes ++ [loop pattern iterator inside], stack⟩ after = _
        rw [runPieces_eq_resume _ stack _ (apart_append_singleton nodes _ (by simp))]
        exact (resume_prepend nodes stack _ _ _).symm
      | some (q, .elseIf _) | some (q, .otherwise) | some (q, .endIf) =>
        exact absurd (stops_of_body hi rfl) (by simp [stopsLoop])
  | .terminator p t :: rest =>
    rw [body]
    split
    · show _ = runPieces ⟨nodes ++ [], stack⟩ (.terminator p t :: rest)
      rw [List.append_nil]
    · next ht =>
      have hstep : Config.step ⟨nodes, stack⟩ (.terminator p t) = _ :=
        close_of_not_stops (by simpa using ht)
      simp only [runPieces, hstep]
      rfl
  | .fault f :: rest =>
    rw [body]
    rfl
termination_by (pieces.length, 0)
decreasing_by
  all_goals
    apply Prod.Lex.left
    simp only [List.length_cons]
    omega

/-- From the beginning of a branch on, the automaton does what the reader of branches does. -/
theorem runPieces_eq_branches (p : Position) (finished : List (Code × List Node))
    (condition : Code) (before : List Node) (stack : List (Frame × List Node))
    (pieces : List Piece) :
    runPieces ⟨[], (.choice p finished condition, before) :: stack⟩ pieces =
      match branches p pieces with
      | .error f => .error f
      | .ok b => runPieces
          ⟨before ++ ofBranches b.alternative (finished ++ [(condition, b.nodes)]), stack⟩
          b.rest := by
  rw [runPieces_eq_resume [] _ pieces (apart_nil pieces), branches]
  show resume _ (body stopsBranch pieces) = _
  cases hb : body stopsBranch pieces with
  | error f => rfl
  | ok b =>
    obtain ⟨nodes, stop, rest, hle, hlt⟩ := b
    match stop with
    | none => rfl
    | some (q, .endIf) => rfl
    | some (q, .endFor) => exact absurd (stops_of_body hb rfl) (by simp [stopsBranch])
    | some (q, .elseIf next) =>
      have : rest.length < pieces.length := hlt rfl
      show runPieces ⟨[], (.choice p (finished ++ [(condition, nodes)]) next, before) :: stack⟩
        rest = _
      rw [runPieces_eq_branches]
      cases hm : branches p rest with
      | error f => simp only [hm]
      | ok more =>
        have hjoin : ofBranches more.alternative
            (finished ++ [(condition, nodes)] ++ [(next, more.nodes)]) =
              ofBranches (.elseIf next more.nodes more.alternative)
                (finished ++ [(condition, nodes)]) := ofBranches_append _ _ _ (by simp)
        simp only [hm, hjoin]
    | some (q, .otherwise) =>
      have : rest.length < pieces.length := hlt rfl
      show runPieces ⟨[], (.otherwise (finished ++ [(condition, nodes)]) q, before) :: stack⟩
        rest = _
      rw [runPieces_eq_resume [] _ rest (apart_nil rest)]
      show resume _ (body stopsElse rest) = _
      cases hl : body stopsElse rest with
      | error f =>
        simp only [hl]
        rfl
      | ok last =>
        obtain ⟨lastNodes, stop, after, hle', hlt'⟩ := last
        match stop with
        | none =>
          simp only [hl]
          rfl
        | some (r, .endIf) =>
          simp only [hl]
          rfl
        | some (r, .endFor) | some (r, .elseIf _) | some (r, .otherwise) =>
          exact absurd (stops_of_body hl rfl) (by simp [stopsElse])
termination_by (pieces.length, 1)
decreasing_by
  · exact Prod.Lex.right _ Nat.zero_lt_one
  · exact Prod.Lex.left _ _ this
  · exact Prod.Lex.left _ _ this

end

/-- On the outermost level there is no terminator at which a reader could stop. -/
theorem stop_eq_none {pieces : List Piece} {b : Body pieces.length}
    (h : body (fun _ => false) pieces = .ok b) : b.stop = none := by
  cases hs : b.stop with
  | none => rfl
  | some stop => exact absurd (stops_of_body h hs) Bool.false_ne_true

/-- Pieces are read by their steps. -/
theorem ofPieces_eq_runPieces (pieces : List Piece) :
    Node.ofPieces pieces = runPieces .start pieces := by
  rw [ofPieces, Config.start, runPieces_eq_resume [] [] _ (apart_nil _)]
  show (body (fun _ => false) _).map (·.nodes) = resume _ (body (fun _ => false) _)
  cases hb : body (fun _ => false) pieces with
  | error f => rfl
  | ok b =>
    simp only [resume, stop_eq_none hb]
    rfl

/-- A template is read by the steps of its pieces. -/
theorem parse_eq_runPieces (s : List Char) :
    Template.parse s = runPieces .start (Piece.scan s) := by
  rw [Template.parse, ofPieces_eq_runPieces]

/-- A fault of the steps is one of the template. No nodes need to be compared to find it. -/
theorem parse_eq_error_of_map {s : List Char} {f : Fault}
    (h : (runPieces .start (Piece.scan s)).map (fun _ => ()) = .error f) :
    Template.parse s = .error f := by
  rw [parse_eq_runPieces]
  cases hrun : runPieces .start (Piece.scan s) with
  | error g =>
    rw [hrun] at h
    cases h
    rfl
  | ok nodes =>
    rw [hrun] at h
    cases h

/-- **Recursive descent agrees with the explicit stack** on every text: it gives the same nodes, or
the same fault at the same position. -/
theorem parse_eq_run (s : List Char) :
    Template.parse s = run Position.start Config.start s := by
  rw [run_eq_runPieces, Template.parse, Piece.scan, ofPieces]
  show _ = runPieces ⟨[], []⟩ (Piece.scanFrom .start s)
  rw [runPieces_eq_resume [] [] _ (apart_nil _)]
  show (body (fun _ => false) _).map (·.nodes) = resume ⟨[], []⟩ (body (fun _ => false) _)
  cases hb : body (fun _ => false) (Piece.scanFrom .start s) with
  | error f => rfl
  | ok b =>
    cases hs : b.stop with
    | none =>
      simp only [resume, hs]
      rfl
    | some stop =>
      -- On the outermost level there is no terminator at which the reader could have stopped.
      obtain ⟨p, t⟩ := stop
      exact absurd (stops_of_body hb hs) (by simp)

end Automaton

end TextTemplate
