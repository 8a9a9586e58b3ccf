import TextTemplate.Decimal.Shortest

/-!
# Floats from bits to text

- `FloatFormat`: how many bits the parts of a float have.
- `FloatFormat.decode`: what a pattern of bits stands for.
- `Floating.text`: a float in decimal digits, never with an exponent.
-/

namespace TextTemplate

/-- What a pattern of bits stands for. -/
inductive Floating
  | nan
  | infinite (negative : Bool)
  | zero (negative : Bool)
  | finite (negative : Bool) (value : Binary)
deriving Repr

/-- The sizes of the parts of a float. -/
structure FloatFormat where
  exponentBits : Nat
  fractionBits : Nat
deriving Repr

namespace FloatFormat

/-- Floats of 32 bits. -/
def single : FloatFormat := ⟨8, 23⟩

/-- Floats of 64 bits. -/
def double : FloatFormat := ⟨11, 52⟩

/-- What a pattern of bits stands for. The smallest exponent has no hidden bit, and the largest is
for infinities and for what is no number. -/
def decode (f : FloatFormat) (bits : Nat) : Floating :=
  let one := Nat.pow 2 f.fractionBits
  let exponents := Nat.pow 2 f.exponentBits
  let fraction := bits % one
  let exponent := bits / one % exponents
  let negative := bits / (one * exponents) % 2 = 1
  -- The exponent of the last place of the smallest floats.
  let lowest : Int := 2 - (exponents / 2 : Nat) - f.fractionBits
  if exponent = exponents - 1 then
    if fraction = 0 then .infinite negative else .nan
  else if exponent = 0 then
    if fraction = 0 then .zero negative else .finite negative ⟨fraction, lowest, false⟩
  else
    .finite negative ⟨one + fraction, lowest + (exponent - 1 : Nat), fraction = 0 && exponent ≠ 1⟩

end FloatFormat

namespace Decimal

/-- The digits of a decimal with the point where it belongs. -/
def positional (d : Decimal) : String :=
  let s := Nat.toDigits 10 d.digits
  if 0 ≤ d.exponent then String.ofList (s ++ List.replicate d.exponent.toNat '0')
  else
    let places := (-d.exponent).toNat
    let padded := List.replicate (places + 1 - s.length) '0' ++ s
    let whole := padded.length - places
    String.ofList (padded.take whole ++ '.' :: padded.drop whole)

end Decimal

namespace Floating

/-- The sign of a number that may be negative. -/
def sign (negative : Bool) : String := if negative then "-" else ""

/-- A float in the fewest digits that read back, with zeros up to the point and no more. -/
def text : Floating → String
  | nan => "NaN"
  | infinite negative => sign negative ++ "inf"
  | zero negative => sign negative ++ "0"
  | finite negative value => sign negative ++ value.shortest.positional

end Floating

end TextTemplate
