import Chip8.Decimal.Binary

/-!
The shortest decimal of a number: of the decimals that read back as the number, those with the
fewest digits, and of these the nearest.

The numbers that read back as a value are those between the middles of the gaps to its neighbours,
the middles included when the mantissa is even (`readsBack`).  A decimal `d · 10^k` with few digits
lies on a coarse grid, and if a point of the grid reads back then so does one of the two next to the
value; so the search (`shortest`) tries the two neighbours on ever finer grids.

`shortestText` lays the digits out: positionally when the decimal point falls within the digits or
a little outside them, otherwise with an exponent of at least two digits.
-/

namespace Chip8.Decimal

/-- The decimal `digits · 10^power`. -/
structure Scaled where
  digits : Nat
  power : Int
  deriving DecidableEq, Repr

/-- Compare `a · 10^k` with `c · 2^j`. -/
def compareScaled (a : Nat) (k : Int) (c : Nat) (j : Int) : Ordering :=
  compare (a * Nat.pow 10 k.toNat * Nat.pow 2 (-j).toNat)
    (c * Nat.pow 2 j.toNat * Nat.pow 10 (-k).toNat)

/-- Whether a decimal reads back as a value. -/
def readsBack (b : Binary) (d : Scaled) : Bool :=
  let low := 4 * b.mantissa - if b.narrowBelow then 1 else 2
  let high := 4 * b.mantissa + 2
  let even := b.mantissa % 2 == 0
  let below := compareScaled d.digits d.power low (b.exponent - 2)
  let above := compareScaled d.digits d.power high (b.exponent - 2)
  (below == .gt || (even && below == .eq)) && (above == .lt || (even && above == .eq))

/-- The number of digits before the decimal point of the quotient `a / b`; if there are none, minus
the number of zeros after it. -/
def magnitude (a b : Nat) : Int :=
  if b ≤ a then
    (Nat.toDigits 10 (a / b)).length
  else
    let zeros : Int := (Nat.toDigits 10 (b / a)).length - 1
    if a * Nat.pow 10 zeros.toNat = b then 1 - zeros else -zeros

/-- The value divided by `10^k`, rounded down. -/
def gridFloor (b : Binary) (k : Int) : Nat :=
  b.numerator * Nat.pow 10 (-k).toNat / (b.denominator * Nat.pow 10 k.toNat)

/-- The neighbour of a value on the grid of step `10^k` that reads back; of two the nearer, and from
halfway the even one. -/
def neighbour? (b : Binary) (k : Int) : Option Scaled :=
  let down := gridFloor b k
  let middle := compareScaled (2 * down + 1) k (2 * b.mantissa) b.exponent
  match readsBack b ⟨down, k⟩, readsBack b ⟨down + 1, k⟩ with
  | true, true =>
    if middle == .gt || (middle == .eq && down % 2 == 0) then some ⟨down, k⟩
    else some ⟨down + 1, k⟩
  | true, false => some ⟨down, k⟩
  | false, true => some ⟨down + 1, k⟩
  | false, false => none

/-- The shortest decimal of a value other than zero.  Seventeen digits always suffice. -/
def shortest (b : Binary) : Scaled :=
  let top := magnitude b.numerator b.denominator
  let grids : List Int := (List.range 17).map fun (n : Nat) => top - 1 - (n : Int)
  (grids.findSome? (neighbour? b)).getD ⟨gridFloor b (top - 17), top - 17⟩

/-- The digits of a number without the zeros at its end. -/
def significant (n : Nat) : List Char :=
  ((Nat.toDigits 10 n).reverse.dropWhile (· == '0')).reverse

/-- Lay out digits with the decimal point after the first `point` of them. -/
def layOut (digits : List Char) (point : Int) : List Char :=
  if -4 < point ∧ point ≤ 16 then
    if point ≤ 0 then
      '0' :: '.' :: (List.replicate (-point).toNat '0' ++ digits)
    else if digits.length ≤ point then
      digits.rightpad point.toNat '0' ++ ['.', '0']
    else
      digits.take point.toNat ++ '.' :: digits.drop point.toNat
  else
    let power := point - 1
    let mantissa :=
      match digits with
      | first :: second :: rest => first :: '.' :: second :: rest
      | _ => digits
    let sign := if power < 0 then '-' else '+'
    mantissa ++ 'e' :: sign :: (Nat.toDigits 10 power.natAbs).leftpad 2 '0'

/-- A number as its shortest decimal. -/
def shortestText (x : Float) : String :=
  match Binary.ofFloat? x with
  | some b =>
    let digits :=
      if b.mantissa = 0 then
        ['0', '.', '0']
      else
        let d := shortest b
        layOut (significant d.digits) ((Nat.toDigits 10 d.digits).length + d.power)
    String.ofList (if b.negative then '-' :: digits else digits)
  | none => specialText x

example : shortestText (0.1 + 0.2) = "0.30000000000000004" := by decide +kernel
example : shortestText 1e16 = "1e+16" := by decide +kernel
example : shortestText 1e-5 = "1e-05" := by decide +kernel
example : shortestText (-0.0) = "-0.0" := by decide +kernel

end Chip8.Decimal
