/-!
# The shortest decimal that reads back

A binary float stands for every real number that rounds to it. Of the decimals among these, the ones
with the fewest digits are the shortest names of the float, and of these the nearest is chosen.

- `Binary`: a positive binary float, `mantissa * 2 ^ exponent`.
- `Binary.contains`: whether a decimal rounds to a float.
- `Decimal`: `digits * 10 ^ exponent`.
- `Binary.shortest`: the shortest decimal of a float; a tie goes up.

All of it is done in whole numbers: two numbers with different exponents are compared after both are
multiplied by the powers that clear them.
-/

namespace TextTemplate

/-- A positive binary float. -/
structure Binary where
  mantissa : Nat
  exponent : Int
  /-- Whether the next smaller float is only half as far away as the next larger one. -/
  narrow : Bool
deriving Repr

/-- A decimal: its digits as a number, and the exponent of ten. -/
structure Decimal where
  digits : Nat
  exponent : Int
deriving DecidableEq, Repr

namespace Decimal

/-- The part of an exponent above zero. -/
def up (k : Int) : Nat := k.toNat

/-- The part of an exponent below zero. -/
def down (k : Int) : Nat := (-k).toNat

/-- A decimal on a scale that clears the exponent of ten and one of two. -/
def scaled (d : Decimal) (two : Int) : Nat :=
  d.digits * Nat.pow 10 (up d.exponent) * Nat.pow 2 (down two)

/-- The number `m * 2 ^ two` on the same scale. -/
def scaledBinary (ten : Int) (m : Nat) (two : Int) : Nat :=
  m * Nat.pow 2 (up two) * Nat.pow 10 (down ten)

/-- A decimal without zeros at its end. -/
def trim (d : Decimal) : Nat → Decimal
  | 0 => d
  | n + 1 => if d.digits ≠ 0 ∧ d.digits % 10 = 0 then trim ⟨d.digits / 10, d.exponent + 1⟩ n else d

end Decimal

namespace Binary

open Decimal

/-- The lower end of the numbers that round to a float, in quarters of its last place. -/
def low (b : Binary) : Nat := 4 * b.mantissa - (if b.narrow then 1 else 2)

/-- The upper end, in quarters of the last place. -/
def high (b : Binary) : Nat := 4 * b.mantissa + 2

/-- Whether a decimal rounds to a float. The ends do if the mantissa is even. -/
def contains (b : Binary) (d : Decimal) : Bool :=
  let x := d.scaled (b.exponent - 2)
  let lo := scaledBinary d.exponent b.low (b.exponent - 2)
  let hi := scaledBinary d.exponent b.high (b.exponent - 2)
  if b.mantissa % 2 = 0 then lo ≤ x && x ≤ hi else lo < x && x < hi

/-- The largest decimal with an exponent that is not above a float. -/
def floor (b : Binary) (ten : Int) : Decimal :=
  let above := b.mantissa * Nat.pow 2 (up b.exponent) * Nat.pow 10 (down ten)
  ⟨above / (Nat.pow 10 (up ten) * Nat.pow 2 (down b.exponent)), ten⟩

/-- Whether a float is nearer to the decimal after `d` than to `d`, or as near to both. -/
def nearerToNext (b : Binary) (d : Decimal) : Bool :=
  (Decimal.mk (2 * d.digits + 1) d.exponent).scaled b.exponent
    ≤ scaledBinary d.exponent (2 * b.mantissa) b.exponent

/-- The exponent of ten of the first digit of a float. -/
def leading (b : Binary) : Int :=
  let above := b.mantissa * Nat.pow 2 (up b.exponent)
  let below := Nat.pow 2 (down b.exponent)
  if below ≤ above then ((Nat.toDigits 10 (above / below)).length : Int) - 1
  else
    let ratio := (below + above - 1) / above
    Int.negOfNat (Nat.toDigits 10 (ratio - 1)).length

/-- The decimal with an exponent that rounds to a float and is nearest to it, if there is one. -/
def onGrid? (b : Binary) (ten : Int) : Option Decimal :=
  let d := b.floor ten
  let next := Decimal.mk (d.digits + 1) ten
  match b.contains d, b.contains next with
  | true, true => some (if b.nearerToNext d then next else d)
  | true, false => some d
  | false, true => some next
  | false, false => none

/-- Looks for a decimal on finer and finer grids. -/
def search (b : Binary) (ten : Int) : Nat → Decimal
  | 0 => b.floor ten
  | n + 1 =>
    match b.onGrid? ten with
    | some d => d
    | none => search b (ten - 1) n

/-- The number of digits that are enough for every float of up to 64 bits. -/
def enough : Nat := 17

/-- The shortest decimal of a float. -/
def shortest (b : Binary) : Decimal :=
  (b.search b.leading enough).trim (enough + 1)

end Binary

end TextTemplate
