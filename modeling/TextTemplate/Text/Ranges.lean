/-!
# Sets of characters as sorted ranges

- `Ranges`: a set of code points, written as closed ranges in ascending order.
- `Ranges.contains`: membership; the search ends at the first range above the character, so that
  characters near the front of a table are decided at once.
- `Ranges.contains_cons`: the search of a table by its first range.
-/

namespace TextTemplate

namespace Text

/-- Closed ranges of code points, ascending and apart from each other. -/
abbrev Ranges := List (Nat × Nat)

namespace Ranges

/-- Whether a code point lies in one of the ranges. -/
def containsCode : Ranges → Nat → Bool
  | [], _ => false
  | (lo, hi) :: rest, n => if n < lo then false else if n ≤ hi then true else containsCode rest n

/-- Whether a character lies in one of the ranges. -/
def contains (ranges : Ranges) (c : Char) : Bool :=
  containsCode ranges c.toNat

@[simp] theorem contains_nil (c : Char) : contains [] c = false := rfl

/-- A character below the first range is in no range, one inside it is found, any other is looked
for in the rest. -/
theorem contains_cons (lo hi : Nat) (rest : Ranges) (c : Char) :
    contains ((lo, hi) :: rest) c =
      if c.toNat < lo then false else if c.toNat ≤ hi then true else contains rest c := rfl

end Ranges

end Text

end TextTemplate
