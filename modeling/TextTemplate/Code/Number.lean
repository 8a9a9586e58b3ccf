import TextTemplate.Code.Word

/-!
# Numbers

An integer is a run of digits in one of four bases; a number with a point or an exponent is a float.
Low lines may stand between digits, and a word may be glued to the end as a suffix.

- `Number.dropInt?`, `Number.dropFloat?`: what follows the integer or float at the front of a text.
- `Number.parts?`: the value and the suffix of the text of an integer literal.
-/

namespace TextTemplate

namespace Number

open Text

/-- The value of a hexadecimal digit of either case. -/
def digit? (c : Char) : Option Nat :=
  if '0' ≤ c && c ≤ '9' then some (c.toNat - '0'.toNat)
  else if 'a' ≤ c && c ≤ 'f' then some (c.toNat - 'a'.toNat + 10)
  else if 'A' ≤ c && c ≤ 'F' then some (c.toNat - 'A'.toNat + 10)
  else none

/-- Whether a character is a digit of a base. -/
def isDigitOf (base : Nat) (c : Char) : Bool :=
  match digit? c with
  | some n => n < base
  | none => false

/-- Whether a character is one of the ten decimal digits. -/
def isDecimal (c : Char) : Bool := isDigitOf 10 c

/-- A digit or a low line. -/
def isDecimalOrLow (c : Char) : Bool := isDecimal c || c == '_'

/-- Whether a text starts with a decimal digit. -/
def startsDecimal : List Char → Bool
  | c :: _ => isDecimal c
  | [] => false

/-- The base that the front of a text announces, and the rest. -/
def base : List Char → Nat × List Char
  | '0' :: 'x' :: s => (16, s)
  | '0' :: 'o' :: s => (8, s)
  | '0' :: 'b' :: s => (2, s)
  | s => (10, s)

/-- What follows the digits at the front of a text. A decimal digit that the base does not have
makes the number wrong; a low line may not come first in base ten. -/
def dropDigits? (s : List Char) : Option (List Char) :=
  let (b, s) := base s
  let isPart := fun c => isDigitOf b c || c == '_'
  let run := s.takeWhile isPart
  let rest := s.dropWhile isPart
  if run.any (isDigitOf b) && !startsDecimal rest && (b != 10 || startsDecimal s) then some rest
  else none

/-- A number ends where no word goes on, after the optional suffix. -/
def finish? (s : List Char) : Option (List Char) :=
  let rest := Word.dropSuffix s
  if Word.continues rest then none else some rest

/-- What follows the integer literal at the front of a text. -/
def dropInt? (s : List Char) : Option (List Char) :=
  (dropDigits? s).bind finish?

/-- What follows an exponent, after its letter: an optional sign, then digits, of which there must
be one. -/
def dropExponent? (s : List Char) : Option (List Char) :=
  let s := s.dropWhile (· == '_')
  let s := match s with
    | '+' :: r | '-' :: r => r
    | s => s
  if (s.takeWhile isDecimalOrLow).any isDecimal then some (s.dropWhile isDecimalOrLow) else none

/-- What follows the digits, the point and the exponent at the front of a text. A point that belongs
to a range or to a name is not part of a number, and an exponent without digits is a suffix. -/
def dropFloatDigits? (s : List Char) : Option (List Char) :=
  if startsDecimal s then
    match s.dropWhile isDecimalOrLow with
    | '.' :: r =>
      if Word.starts r || r.head? == some '.' then none
      else
        let r := r.dropWhile isDecimalOrLow
        match r with
        | 'e' :: t | 'E' :: t => some ((dropExponent? t).getD r)
        | _ => some r
    | 'e' :: t | 'E' :: t => dropExponent? t
    | _ => none
  else none

/-- What follows the float literal at the front of a text. -/
def dropFloat? (s : List Char) : Option (List Char) :=
  (dropFloatDigits? s).bind finish?

/-! ## The parts of a literal's text -/

/-- Whether a text may be a suffix: empty, or one word. -/
def isSuffix (s : List Char) : Bool := s.isEmpty || Word.isPlain s

/-- Whether the text after an `e` in base ten makes the number a float: an exponent's digits follow,
and then nothing but a word; a sign settles it at once. -/
def isExponent : Bool → List Char → Bool
  | some?, [] => some?
  | some?, '_' :: s => isExponent some? s
  | _, '-' :: _ | _, '+' :: _ => true
  | some?, c :: s => if isDecimal c then isExponent true s else some? && Word.isPlain (c :: s)

/-- The value of the digits at the front of a text and what follows them; `none` if a digit does not
belong to the base, or if the number is a float. -/
def digits? (b : Nat) : (seen : Bool) → (value : Nat) → List Char → Option (Nat × List Char)
  | seen, n, [] => if seen then some (n, []) else none
  | seen, n, c :: s =>
    if c == '_' then digits? b seen n s
    else if b == 10 && c == '.' then none
    else if b == 10 && (c == 'e' || c == 'E') then
      if isExponent false s then none else if seen then some (n, c :: s) else none
    else
      match digit? c with
      | some d =>
        -- A letter begins the suffix unless the base has it as a digit.
        if b ≤ 10 && !isDecimal c then if seen then some (n, c :: s) else none
        else if d < b then digits? b true (n * b + d) s
        else none
      | none => if seen then some (n, c :: s) else none

/-- The value and the suffix of the text of an integer literal. -/
def parts? (s : List Char) : Option (Nat × List Char) :=
  if startsDecimal s then
    let (b, s) := base s
    match digits? b false 0 s with
    | some (n, suffix) => if isSuffix suffix then some (n, suffix) else none
    | none => none
  else none

end Number

end TextTemplate
