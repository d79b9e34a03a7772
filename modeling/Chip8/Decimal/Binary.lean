/-!
Binary fractions.  A finite floating point number is a sign and a value `m · 2^e` with natural `m`;
`Binary.ofFloat?` reads both off the bits, so that what is printed can be computed in exact
arithmetic.
-/

namespace Chip8.Decimal

/-- A value `mantissa · 2^exponent` with a sign. -/
structure Binary where
  negative : Bool
  mantissa : Nat
  exponent : Int
  /-- The next value below is only half as far away as the next one above. -/
  narrowBelow : Bool
  deriving DecidableEq, Repr

namespace Binary

/-- The value spelled by the bits of a finite number of 64 bits: a sign, eleven bits of exponent,
fifty-two bits of mantissa. -/
def ofBits (bits : UInt64) : Binary :=
  let n := bits.toNat
  let negative : Bool := n >>> 63 = 1
  let power : Nat := (n >>> 52) % 0x800
  let fraction : Nat := n % 0x10000000000000
  if power = 0 then
    ⟨negative, fraction, -1074, false⟩
  else
    ⟨negative, 0x10000000000000 + fraction, (power : Int) - 1075, fraction = 0 ∧ 1 < power⟩

/-- The value of a finite number. -/
def ofFloat? (x : Float) : Option Binary :=
  if x.isNaN || x.isInf then none else some (ofBits x.toBits)

/-- The numerator of the value as a quotient of natural numbers. -/
def numerator (b : Binary) : Nat :=
  b.mantissa * Nat.pow 2 b.exponent.toNat

/-- The denominator of the value as a quotient of natural numbers. -/
def denominator (b : Binary) : Nat :=
  Nat.pow 2 (-b.exponent).toNat

theorem denominator_pos (b : Binary) : 0 < b.denominator :=
  Nat.two_pow_pos _

end Binary

/-- What is written for a number that is not finite. -/
def specialText (x : Float) : String :=
  if x.isNaN then "nan" else if x < 0 then "-inf" else "inf"

end Chip8.Decimal
