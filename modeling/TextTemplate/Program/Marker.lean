/-!
# Markers

A marker says what an expression in a template is for.

- `Marker`: output, effect, or a tag with a meaning of its own.
- `Marker.ofTag`, `Marker.tag`: markers read from tags and written as tags.
- `Marker.ofTag_tag`: reading what was written gives the marker back, except for one that holds the
  tag of another marker.
- `isComment`: the tags of expressions that are only remarks.
-/

namespace TextTemplate

/-- What an expression is for. -/
inductive Marker
  /-- Its value is part of the text. -/
  | output
  /-- It is run for its effect alone. -/
  | effect
  /-- Its tag decides. -/
  | other (tag : String)
deriving DecidableEq, Repr, Inhabited

namespace Marker

/-- The marker that a tag stands for. -/
def ofTag (tag : String) : Marker :=
  if tag = "=" then output else if tag = "" then effect else other tag

/-- The tag of a marker. -/
def tag : Marker → String
  | output => "="
  | effect => ""
  | other tag => tag

@[simp] theorem tag_ofTag (tag : String) : (ofTag tag).tag = tag := by
  unfold ofTag
  split
  · simp_all [Marker.tag]
  · split <;> simp_all [Marker.tag]

/-- Reading the tag of a marker gives the marker back unless it holds a tag that is taken. -/
theorem ofTag_tag (m : Marker) (h : m ≠ other "=" ∧ m ≠ other "") : ofTag m.tag = m := by
  cases m with
  | output => rfl
  | effect => rfl
  | other t =>
    have h₁ : t ≠ "=" := fun e => h.1 (e ▸ rfl)
    have h₂ : t ≠ "" := fun e => h.2 (e ▸ rfl)
    simp [ofTag, tag, h₁, h₂]

end Marker

/-- Whether a tag marks a remark, which is dropped. -/
def isComment (tag : String) : Bool :=
  tag == "#" || tag == "comment"

end TextTemplate
