import TextTemplate.Template.Piece

/-!
# The structure of a template

- `Node`, `Alternative`: text, code, choices and loops, nested as their tags are.
- `Node.body`, `Node.branches`: nodes read off the pieces by recursive descent. Each reader is given
  the terminators at which it stops.
- `Node.ofPieces`: the nodes of a sequence of pieces.
- `Template.parse`: the nodes of a template.

A terminator where none may stand is wrong at once; a block that is still open is wrong only at the
end of the template, and then the innermost one is reported.
-/

namespace TextTemplate

mutual

/-- A part of a template. -/
inductive Node
  /-- Text, as it is. -/
  | text (s : String)
  /-- Code and what it is for. -/
  | chunk (marker : Marker) (code : Code)
  /-- A choice: the first condition and its body, and what is left to choose from. -/
  | choice (condition : Code) (body : List Node) (rest : Alternative)
  /-- A loop. -/
  | loop (pattern iterator : Code) (body : List Node)
deriving Repr

/-- What is chosen when no condition before it holds. -/
inductive Alternative
  /-- Nothing. -/
  | nothing
  /-- The last body. -/
  | otherwise (body : List Node)
  /-- Another condition and its body. -/
  | elseIf (condition : Code) (body : List Node) (rest : Alternative)
deriving Repr

end

namespace Node

/-- The characters at the front of pieces, and the pieces after them. -/
def leadingText : List Piece → List Char × List Piece
  | .char c :: rest =>
    let (s, pieces) := leadingText rest
    (c :: s, pieces)
  | pieces => ([], pieces)

theorem length_leadingText (pieces : List Piece) :
    (leadingText pieces).2.length ≤ pieces.length := by
  fun_induction leadingText pieces with
  | case1 c rest s after h ih =>
    rw [h] at ih
    exact Nat.le_succ_of_le ih
  | case2 => exact Nat.le_refl _

/-! ## Recursive descent -/

/-- Nodes read from a list of `size` pieces up to a terminator or the end. -/
structure Body (size : Nat) where
  nodes : List Node
  /-- The terminator at which the reader stopped, and its place. -/
  stop : Option (Position × Terminator)
  rest : List Piece
  length_le : rest.length ≤ size
  length_lt : stop.isSome → rest.length < size

/-- What a reader of branches has read: the body of the first branch and the others. -/
structure Branches (size : Nat) where
  nodes : List Node
  alternative : Alternative
  rest : List Piece
  length_le : rest.length ≤ size

namespace Body

/-- Puts nodes before a body that was read from the pieces after them. -/
def prepend {m n : Nat} (f : List Node → List Node) (b : Body m) (h : m < n) : Body n where
  nodes := f b.nodes
  stop := b.stop
  rest := b.rest
  length_le := Nat.le_of_lt (Nat.lt_of_le_of_lt b.length_le h)
  length_lt hs := Nat.lt_trans (b.length_lt hs) h

end Body

/-- Where the body of a branch stops. -/
def stopsBranch : Terminator → Bool
  | .otherwise | .elseIf _ | .endIf => true
  | .endFor => false

/-- Where the last body of a choice stops. -/
def stopsElse : Terminator → Bool
  | .endIf => true
  | _ => false

/-- Where the body of a loop stops. -/
def stopsLoop : Terminator → Bool
  | .endFor => true
  | _ => false

mutual

/-- The nodes up to the first terminator of this level, which has to be one of those at which the
body stops. -/
def body (stops : Terminator → Bool) (pieces : List Piece) : Except Fault (Body pieces.length) :=
  match pieces with
  | [] => .ok ⟨[], none, [], by simp, by simp⟩
  | .char c :: rest =>
    have := length_leadingText rest
    match body stops (leadingText rest).2 with
    | .ok b =>
      .ok (b.prepend (text (String.ofList (c :: (leadingText rest).1)) :: ·) (by simp; omega))
    | .error f => .error f
  | .chunk marker code :: rest =>
    match body stops rest with
    | .ok b => .ok (b.prepend (chunk marker code :: ·) (by simp))
    | .error f => .error f
  | .openIf position condition :: rest =>
    match branches position rest with
    | .ok chain =>
      have := chain.length_le
      match body stops chain.rest with
      | .ok b =>
        .ok (b.prepend (choice condition chain.nodes chain.alternative :: ·) (by simp; omega))
      | .error f => .error f
    | .error f => .error f
  | .openFor position pattern iterator :: rest =>
    match body stopsLoop rest with
    | .ok inner =>
      have := inner.length_le
      if inner.stop.isSome then
        match body stops inner.rest with
        | .ok b => .ok (b.prepend (loop pattern iterator inner.nodes :: ·) (by simp; omega))
        | .error f => .error f
      else .error ⟨position, .unclosedFor⟩
    | .error f => .error f
  | .terminator position t :: rest =>
    if stops t then .ok ⟨[], some (position, t), rest, by simp, by simp⟩
    else .error ⟨position, .unexpected t.divider⟩
  | .fault f :: _ => .error f
termination_by (pieces.length, 0)

/-- The body of a branch that was opened at a position, and the branches after it. -/
def branches (position : Position) (pieces : List Piece) : Except Fault (Branches pieces.length) :=
  match body stopsBranch pieces with
  | .error f => .error f
  | .ok b =>
    match h : b.stop with
    | none => .error ⟨position, .unclosedIf⟩
    | some (p, t) =>
      have := b.length_lt (by simp [h])
      match t with
      | .elseIf condition =>
        match branches position b.rest with
        | .ok more => .ok ⟨b.nodes, .elseIf condition more.nodes more.alternative, more.rest,
            Nat.le_trans more.length_le b.length_le⟩
        | .error f => .error f
      | .otherwise =>
        match body stopsElse b.rest with
        | .ok last =>
          if last.stop.isSome then .ok ⟨b.nodes, .otherwise last.nodes, last.rest,
            Nat.le_trans last.length_le b.length_le⟩
          else .error ⟨p, .unclosedElse⟩
        | .error f => .error f
      -- A branch never stops at the end of a loop, so that only the end of the choice is left.
      | .endIf | .endFor => .ok ⟨b.nodes, .nothing, b.rest, b.length_le⟩
termination_by (pieces.length, 1)

end

/-- The nodes of a sequence of pieces: at the outermost level no terminator may stand. -/
def ofPieces (pieces : List Piece) : Except Fault (List Node) :=
  (body (fun _ => false) pieces).map (·.nodes)

end Node

namespace Template

/-- The nodes of a template. -/
def parse (s : List Char) : Except Fault (List Node) :=
  Node.ofPieces (Piece.scan s)

end Template

end TextTemplate
