/-!
# Positions in a template

- `Position`: a place in a text, counted in bytes, and in lines and columns.
- `byteCount`: the number of bytes of a text.
- `Position.after`, `Position.afterAll`: the place after a character and after a text.
- `Position.afterAll_append`: places add up.
- `offset_afterAll`: the bytes of a text are the bytes of its characters.
-/

namespace TextTemplate

/-- The number of bytes of a text. -/
def byteCount : List Char → Nat
  | [] => 0
  | c :: s => c.utf8Size + byteCount s

/-- A place in a text. Only a line feed begins a new line; columns count characters. -/
structure Position where
  /-- The number of bytes before it. -/
  offset : Nat
  /-- The number of its line, from one. -/
  line : Nat
  /-- The number of its column, from one. -/
  column : Nat
deriving DecidableEq, Repr

namespace Position

/-- The beginning of a text. -/
def start : Position := ⟨0, 1, 1⟩

/-- The place after a character. -/
def after (p : Position) (c : Char) : Position :=
  if c = '\n' then ⟨p.offset + c.utf8Size, p.line + 1, 1⟩
  else ⟨p.offset + c.utf8Size, p.line, p.column + 1⟩

/-- The place after a text. -/
def afterAll (p : Position) (s : List Char) : Position :=
  s.foldl after p

@[simp] theorem afterAll_nil (p : Position) : p.afterAll [] = p := rfl

@[simp] theorem afterAll_cons (p : Position) (c : Char) (s : List Char) :
    p.afterAll (c :: s) = (p.after c).afterAll s := rfl

/-- The place after two texts is the place after the second, counted from the place after the
first. -/
theorem afterAll_append (p : Position) (s t : List Char) :
    p.afterAll (s ++ t) = (p.afterAll s).afterAll t := by
  simp [afterAll]

theorem offset_after (p : Position) (c : Char) : (p.after c).offset = p.offset + c.utf8Size := by
  unfold after
  split <;> rfl

/-- A text moves the place on by the bytes of its characters. -/
theorem offset_afterAll (p : Position) (s : List Char) :
    (p.afterAll s).offset = p.offset + byteCount s := by
  induction s generalizing p with
  | nil => rfl
  | cons c s ih => simp [ih, offset_after, byteCount, Nat.add_assoc]

end Position

end TextTemplate
