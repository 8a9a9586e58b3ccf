/-!
# White space

- `isBlank`: the characters with the property `White_Space`.
- `trimStart`, `trimEnd`, `trim`: a text without the white space at its start, its end or both.
- `trim_eq_nil_iff`: nothing is left of a text exactly when all of it is blank.
-/

namespace TextTemplate

namespace Text

/-- White space: the tabulator and line controls, the space, and the spaces and separators outside
ASCII. -/
def isBlank (c : Char) : Bool :=
  let n := c.toNat
  (0x9 ≤ n && n ≤ 0xd) || n == 0x20 || n == 0x85 || n == 0xa0 || n == 0x1680 ||
    (0x2000 ≤ n && n ≤ 0x200a) || n == 0x2028 || n == 0x2029 || n == 0x202f || n == 0x205f ||
    n == 0x3000

/-- A text without its leading white space. -/
def trimStart (s : List Char) : List Char :=
  s.dropWhile isBlank

/-- A text without its trailing white space. -/
def trimEnd (s : List Char) : List Char :=
  (s.reverse.dropWhile isBlank).reverse

/-- A text without the white space around it. -/
def trim (s : List Char) : List Char :=
  trimEnd (trimStart s)

@[simp] theorem trim_nil : trim [] = [] := rfl

/-- Dropping leaves nothing exactly when every element is dropped. -/
theorem dropWhile_eq_nil_iff_all {α : Type} (p : α → Bool) (s : List α) :
    s.dropWhile p = [] ↔ s.all p := by
  induction s with
  | nil => simp
  | cons c s ih => cases h : p c <;> simp [h, ih]

/-- Nothing is left of a text exactly when all of it is blank. -/
theorem trim_eq_nil_iff (s : List Char) : trim s = [] ↔ s.all isBlank := by
  constructor
  · intro h
    have hrev : (trimStart s).all isBlank := by
      have := (dropWhile_eq_nil_iff_all isBlank (trimStart s).reverse).1
        (by simpa [trim, trimEnd] using h)
      simpa using this
    refine (dropWhile_eq_nil_iff_all isBlank s).1 ?_
    cases hs : s.dropWhile isBlank with
    | nil => rfl
    | cons c r =>
      have hc : isBlank c = false := by
        have := List.head_dropWhile_not (p := isBlank) (l := s) (by simp [hs])
        simpa [hs] using this
      simp [trimStart, hs, hc] at hrev
  · intro h
    simp [trim, trimStart, (dropWhile_eq_nil_iff_all isBlank s).2 h, trimEnd]

end Text

end TextTemplate
