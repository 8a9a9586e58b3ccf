import TextTemplate.Code.Number

/-!
# String and character literals

A literal in quotes is written in one of three dialects: text, bytes, or a text without NUL that is
handed over to foreign code. Each has a plain form, in which a backslash starts an escape, and a raw
form, in which nothing does; a raw literal ends at a quote with as many `#` after it as were written
before its first quote.

- `Dialect`: what a dialect allows.
- `escape?`: one escape, read as the character that it stands for.
- `body?`: the inside of a plain literal, read as the text that it stands for.
- `rawBody?`: the inside of a raw literal, which is its value as it stands.
- `string?`, `character?`: a whole literal with its quotes, read as its value.
- `value?`: the value of the literal that makes up a text.

Every reader also returns what follows. Line ends are read as line feeds in the plain form, and a
carriage return alone is refused in both.
-/

namespace TextTemplate

namespace StringLiteral

open Text

/-- A value that was read and the text that follows it. -/
abbrev Read (α : Type) := Option (α × List Char)

/-- What may be written in a string literal of one kind. -/
structure Dialect where
  /-- The characters that may stand for themselves. -/
  plain : Char → Bool
  /-- The numbers that may be written with two hexadecimal digits. -/
  byte : Nat → Bool
  /-- Whether NUL has its short escape. -/
  nul : Bool
  /-- The characters that may be written by their number. -/
  scalar : Char → Bool

/-- Text: any character, two-digit escapes for ASCII only. -/
def Dialect.text : Dialect where
  plain _ := true
  byte n := n < 128
  nul := true
  scalar _ := true

/-- Bytes: ASCII and two-digit escapes. -/
def Dialect.bytes : Dialect where
  plain c := c.toNat < 128
  byte _ := true
  nul := true
  scalar _ := false

/-- Text without NUL, and any byte but zero. -/
def Dialect.foreign : Dialect where
  plain c := c != '\x00'
  byte n := n != 0
  nul := false
  scalar c := c != '\x00'

/-! ## Escapes -/

/-- The two hexadecimal digits of an escape. -/
def hexPair? : List Char → Read Nat
  | a :: b :: s =>
    match Number.digit? a, Number.digit? b with
    | some m, some n => some (16 * m + n, s)
    | _, _ => none
  | _ => none

/-- The number in braces: at most six hexadecimal digits, low lines between and after them. -/
def scalarDigits? : (count value : Nat) → List Char → Read Nat
  | _, _, [] => none
  | count, value, c :: s =>
    match Number.digit? c with
    | some d => if count == 6 then none else scalarDigits? (count + 1) (16 * value + d) s
    | none =>
      if count == 0 then none
      else if c == '_' then scalarDigits? count value s
      else if c == '}' then some (value, s)
      else none

/-- The character with a number, if there is one. -/
def scalar? (n : Nat) : Option Char :=
  if h : n.isValidChar then some (Char.ofNatAux n h) else none

/-- What stands after the backslash of an escape, read as its character. -/
def escape? (d : Dialect) : List Char → Read Char
  | 'n' :: s => some ('\n', s)
  | 'r' :: s => some ('\r', s)
  | 't' :: s => some ('\t', s)
  | '\\' :: s => some ('\\', s)
  | '\'' :: s => some ('\'', s)
  | '"' :: s => some ('"', s)
  | '0' :: s => if d.nul then some ('\x00', s) else none
  | 'x' :: s =>
    match hexPair? s with
    | some (n, r) => if d.byte n then some (Char.ofNat n, r) else none
    | none => none
  | 'u' :: '{' :: s =>
    match scalarDigits? 0 0 s with
    | some (n, r) =>
      match scalar? n with
      | some c => if d.scalar c then some (c, r) else none
      | none => none
    | none => none
  | _ => none

theorem length_hexPair? {s r : List Char} {n : Nat} (h : hexPair? s = some (n, r)) :
    r.length < s.length := by
  revert h
  fun_cases hexPair? s <;> grind

theorem length_scalarDigits? {s r : List Char} {k m n : Nat}
    (h : scalarDigits? k m s = some (n, r)) : r.length < s.length := by
  fun_induction scalarDigits? k m s <;> grind

/-- An escape is not empty. -/
theorem length_escape? {d : Dialect} {s r : List Char} {c : Char}
    (h : escape? d s = some (c, r)) : r.length < s.length := by
  revert h
  fun_cases escape? d s <;> grind [→ length_hexPair?, → length_scalarDigits?]

/-! ## Line ends after a backslash -/

/-- Whether a text starts with a line end. -/
def startsLineEnd : List Char → Bool
  | '\n' :: _ => true
  | '\r' :: '\n' :: _ => true
  | _ => false

/-- What follows the white space after a backslash at the end of a line. The literal has to go on,
and a carriage return has to belong to a line end. -/
def dropIndent? : List Char → Option (List Char)
  | [] => none
  | '\r' :: '\n' :: s => dropIndent? s
  | '\r' :: _ => none
  | c :: s => if c == ' ' || c == '\t' || c == '\n' then dropIndent? s else some (c :: s)

theorem length_dropIndent? {s r : List Char} (h : dropIndent? s = some r) :
    r.length ≤ s.length := by
  fun_induction dropIndent? s with
  | case1 => cases h
  | case2 s ih => exact Nat.le_trans (ih h) (Nat.le_add_right s.length 2)
  | case3 => cases h
  | case4 c s _ _ _ ih => exact Nat.le_succ_of_le (ih h)
  | case5 c s =>
    cases h
    exact Nat.le_refl _

/-! ## The inside of a literal -/

/-- The inside of a plain literal up to its closing quote, read as its value. -/
def body? (d : Dialect) : List Char → Read (List Char)
  | [] => none
  | '"' :: s => some ([], s)
  | '\r' :: '\n' :: s => (body? d s).map fun (v, r) => ('\n' :: v, r)
  | '\r' :: _ => none
  | '\\' :: s =>
    if startsLineEnd s then
      match h : dropIndent? s with
      | some s' =>
        have : s'.length ≤ s.length := length_dropIndent? h
        body? d s'
      | none => none
    else
      match h : escape? d s with
      | some (c, s') =>
        have : s'.length < s.length := length_escape? h
        (body? d s').map fun (v, r) => (c :: v, r)
      | none => none
  | c :: s => if d.plain c then (body? d s).map fun (v, r) => (c :: v, r) else none
termination_by s => s.length
decreasing_by all_goals (simp_wf <;> omega)

/-- Whether a text starts with as many `#` as are asked for. -/
def startsHashes : Nat → List Char → Bool
  | 0, _ => true
  | n + 1, '#' :: s => startsHashes n s
  | _ + 1, _ => false

/-- The inside of a raw literal up to the quote with `hashes` signs after it. -/
def rawBody? (d : Dialect) (hashes : Nat) : List Char → Read (List Char)
  | [] => none
  | '\r' :: '\n' :: s => (rawBody? d hashes s).map fun (v, r) => ('\r' :: '\n' :: v, r)
  | '\r' :: _ => none
  | c :: s =>
    if c == '"' && startsHashes hashes s then some ([], s.drop hashes)
    else if d.plain c then (rawBody? d hashes s).map fun (v, r) => (c :: v, r)
    else none

/-- A raw literal after its `r`: at most 255 signs, a quote, and the inside. -/
def raw? (d : Dialect) (s : List Char) : Read (List Char) :=
  let hashes := s.takeWhile (· == '#')
  match s.dropWhile (· == '#') with
  | '"' :: r => if hashes.length ≤ 255 then rawBody? d hashes.length r else none
  | _ => none

/-! ## Whole literals -/

/-- The dialect that the front of a text announces, and the rest. -/
def dialect : List Char → Dialect × List Char
  | 'b' :: s => (.bytes, s)
  | 'c' :: s => (.foreign, s)
  | s => (.text, s)

/-- A string literal after the letter of its dialect. -/
def quoted? (d : Dialect) : List Char → Read (List Char)
  | '"' :: s => body? d s
  | 'r' :: s => raw? d s
  | _ => none

/-- A string literal of any dialect, read as its value. -/
def string? (s : List Char) : Read (List Char) :=
  let (d, s) := dialect s
  quoted? d s

/-- A character literal after its opening quote: one character or escape, and the closing quote. -/
def characterBody? (d : Dialect) : List Char → Read Char
  | '\\' :: s =>
    match escape? d s with
    | some (c, '\'' :: r) => some (c, r)
    | _ => none
  | c :: '\'' :: r => if d.plain c then some (c, r) else none
  | _ => none

/-- A character or byte literal, read as its value. -/
def character? : List Char → Read Char
  | '\'' :: s => characterBody? .text s
  | 'b' :: '\'' :: s => characterBody? .bytes s
  | _ => none

/-- Whether a literal is text, in the plain or the raw form. -/
def isText : List Char → Bool
  | '"' :: _ => true
  | 'r' :: _ => true
  | _ => false

/-- The value of the text literal that makes up a text; a suffix is ignored. -/
def value? (s : List Char) : Option (List Char) :=
  if isText s then (quoted? .text s).map (·.1) else none

end StringLiteral

end TextTemplate
