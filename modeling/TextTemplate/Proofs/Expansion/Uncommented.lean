import TextTemplate.Proofs.Expansion.Entries
import TextTemplate.Proofs.Template.Automaton

/-!
# Nodes without remarks

A remark stands among the nodes of a template as a chunk, but adds nothing to the block in which it
stands, not even a name. So the code of a template is that of its other nodes.

- `Node.isRemark`: chunks that the tag makes a remark.
- `Node.dropRemarks`: nodes with all remarks left out, at every depth.
- `dropRemarks_append`, `dropRemarks_ofBranches`: of nodes that are put together.
- `entries_dropRemarks`: the other nodes add the same to a block.
- `compile_dropRemarks`: the code of nodes is that of the other nodes.
-/

namespace TextTemplate

namespace Node

/-- Whether a node is a remark, by its tag. -/
def isRemark : Node → Bool
  | chunk (.other tag) _ => isComment tag
  | _ => false

end Node

mutual

/-- A node with the remarks inside of it left out. -/
def Node.withoutRemarks : Node → Node
  | .text s => .text s
  | .chunk marker code => .chunk marker code
  | .choice condition body rest =>
    .choice condition (Node.dropRemarks body) rest.withoutRemarks
  | .loop pattern iterator body => .loop pattern iterator (Node.dropRemarks body)

/-- Nodes with all remarks left out, at every depth. -/
def Node.dropRemarks : List Node → List Node
  | [] => []
  | n :: rest =>
    if n.isRemark then Node.dropRemarks rest else n.withoutRemarks :: Node.dropRemarks rest

/-- What is left of a choice, with all remarks left out. -/
def Alternative.withoutRemarks : Alternative → Alternative
  | .nothing => .nothing
  | .otherwise body => .otherwise (Node.dropRemarks body)
  | .elseIf condition body rest =>
    .elseIf condition (Node.dropRemarks body) rest.withoutRemarks

end

/-! ## Nodes put together -/

namespace Node

variable {n : Node}

theorem dropRemarks_cons_of_remark (h : n.isRemark = true) (rest : List Node) :
    dropRemarks (n :: rest) = dropRemarks rest := by
  rw [dropRemarks, if_pos h]

theorem dropRemarks_cons_of_not_remark (h : n.isRemark = false) (rest : List Node) :
    dropRemarks (n :: rest) = n.withoutRemarks :: dropRemarks rest := by
  rw [dropRemarks, if_neg (Bool.eq_false_iff.1 h)]

theorem dropRemarks_append (front back : List Node) :
    dropRemarks (front ++ back) = dropRemarks front ++ dropRemarks back := by
  induction front with
  | nil => rfl
  | cons n front ih =>
    rw [List.cons_append]
    cases h : n.isRemark with
    | true => rw [dropRemarks_cons_of_remark h, dropRemarks_cons_of_remark h, ih]
    | false =>
      rw [dropRemarks_cons_of_not_remark h, dropRemarks_cons_of_not_remark h, ih, List.cons_append]

/-- Branches with all remarks left out of their bodies. -/
def dropRemarksIn (branches : List (Code × List Node)) : List (Code × List Node) :=
  branches.map fun (condition, body) => (condition, dropRemarks body)

theorem withoutRemarks_ofBranches (last : Alternative) (branches : List (Code × List Node)) :
    (Alternative.ofBranches last branches).withoutRemarks =
      .ofBranches last.withoutRemarks (dropRemarksIn branches) := by
  induction branches with
  | nil => rfl
  | cons branch rest ih =>
    rw [Alternative.ofBranches_cons, Alternative.withoutRemarks, ih]
    rfl

/-- Remarks are left out of a choice branch by branch. -/
theorem dropRemarks_ofBranches (last : Alternative) (branches : List (Code × List Node)) :
    dropRemarks (ofBranches last branches) =
      ofBranches last.withoutRemarks (dropRemarksIn branches) := by
  cases branches with
  | nil => rfl
  | cons branch rest =>
    rw [ofBranches, dropRemarks_cons_of_not_remark rfl, withoutRemarks,
      withoutRemarks_ofBranches]
    rfl

end Node

/-! ## Compilation -/

namespace Construct

open Node

theorem entry_of_remark {stem : String} {k : Nat} {n : Node} (h : n.isRemark = true) :
    entry stem k n = ([], k) := by
  match n with
  | .chunk (.other tag) c =>
    have htag : isComment tag = true := h
    rw [entry, if_pos htag]
  | .chunk .output _ | .chunk .effect _ | .text _ | .choice _ _ _ | .loop _ _ _ =>
    exact absurd h Bool.false_ne_true

mutual

/-- Remarks inside of a node make no difference to what it adds. -/
theorem entry_withoutRemarks (stem : String) (k : Nat) (n : Node) :
    entry stem k n.withoutRemarks = entry stem k n := by
  match n with
  | .text _ | .chunk _ _ => rw [withoutRemarks]
  | .choice condition body rest =>
    rw [withoutRemarks, entry, entry, entries_dropRemarks]
    simp only [ofAlternative_withoutRemarks]
  | .loop pattern iterator body => rw [withoutRemarks, entry, entry, entries_dropRemarks]

/-- Nodes without their remarks add the same to a block. -/
theorem entries_dropRemarks (stem : String) (k : Nat) (nodes : List Node) :
    entries stem k (dropRemarks nodes) = entries stem k nodes := by
  match nodes with
  | [] => rw [dropRemarks]
  | n :: rest =>
    cases h : n.isRemark with
    | true =>
      rw [dropRemarks_cons_of_remark h, entries_dropRemarks stem k rest, entries,
        entry_of_remark h]
      rfl
    | false =>
      rw [dropRemarks_cons_of_not_remark h, entries, entries, entry_withoutRemarks stem k n]
      simp only [entries_dropRemarks stem _ rest]

theorem ofAlternative_withoutRemarks (stem : String) (k : Nat) (rest : Alternative) :
    ofAlternative stem k rest.withoutRemarks = ofAlternative stem k rest := by
  match rest with
  | .nothing => rw [Alternative.withoutRemarks]
  | .otherwise body =>
    rw [Alternative.withoutRemarks, ofAlternative, ofAlternative, entries_dropRemarks]
  | .elseIf condition body rest =>
    rw [Alternative.withoutRemarks, ofAlternative, ofAlternative, entries_dropRemarks]
    simp only [ofAlternative_withoutRemarks]

end

end Construct

namespace Template

/-- The code of nodes is that of the nodes without their remarks, and so is a failure to make it. -/
theorem compile_dropRemarks (runtime : Code) (options : Options) (nodes : List Node) :
    compile runtime options (Node.dropRemarks nodes) = compile runtime options nodes := by
  rw [compile, compile, Construct.ofNodes_eq_ofEntries, Construct.ofNodes_eq_ofEntries,
    Construct.entries_dropRemarks]

/-- Nodes that differ only in their remarks have the same code. -/
theorem compile_eq_of_dropRemarks_eq {nodes nodes' : List Node}
    (h : Node.dropRemarks nodes' = Node.dropRemarks nodes) (runtime : Code) (options : Options) :
    compile runtime options nodes' = compile runtime options nodes := by
  rw [← compile_dropRemarks, h, compile_dropRemarks]

end Template

end TextTemplate
