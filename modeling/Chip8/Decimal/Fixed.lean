import Chip8.Decimal.Binary

/-!
Decimals with a fixed number of places.  The exact value is rounded to the nearest multiple of the
last place, and a value halfway between two of them goes to the even one.

`roundDiv_near` and `roundDiv_tie` are the two halves of that rule.
-/

namespace Chip8.Decimal

/-- The quotient of two numbers, rounded to the nearest number and from halfway to the even one. -/
def roundDiv (a b : Nat) : Nat :=
  let q := a / b
  if 2 * (a % b) < b ∨ (2 * (a % b) = b ∧ q % 2 = 0) then q else q + 1

/-- The rounded quotient is at most half a unit away. -/
theorem roundDiv_near (a b : Nat) (h : 0 < b) :
    2 * (roundDiv a b * b) ≤ 2 * a + b ∧ 2 * a ≤ 2 * (roundDiv a b * b) + b := by
  have e : b * (a / b) + a % b = a := Nat.div_add_mod a b
  have l : a % b < b := Nat.mod_lt _ h
  have c : a / b * b = b * (a / b) := Nat.mul_comm ..
  simp only [roundDiv]
  split
  · omega
  · rw [Nat.add_mul, Nat.one_mul]
    omega

/-- From halfway the rounded quotient is even. -/
theorem roundDiv_tie (a b : Nat) (h : 2 * (a % b) = b) : roundDiv a b % 2 = 0 := by
  simp only [roundDiv]
  split
  · omega
  · omega

/-- The digits of a number counted in units of the last of `places` decimal places. -/
def placed (places n : Nat) : List Char :=
  let digits := (Nat.toDigits 10 n).leftpad (places + 1) '0'
  digits.take (digits.length - places) ++ '.' :: digits.drop (digits.length - places)

/-- A number with two decimal places. -/
def twoPlaces (x : Float) : String :=
  match Binary.ofFloat? x with
  | some b =>
    let digits := placed 2 (roundDiv (b.numerator * 100) b.denominator)
    String.ofList (if b.negative then '-' :: digits else digits)
  | none => specialText x

example : twoPlaces 0.125 = "0.12" := by decide +kernel
example : twoPlaces 0.375 = "0.38" := by decide +kernel
example : twoPlaces (-0.001) = "-0.00" := by decide +kernel

end Chip8.Decimal
