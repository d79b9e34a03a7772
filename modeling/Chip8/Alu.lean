import Chip8.Instruction

/-!
Register arithmetic, the words `8XYN`.  An operation takes the old values of `VX` and `VY` to a byte
for `VX` and, for five of the nine, a flag: the carry of a sum, the absence of a borrow in a
difference, the bit a shift pushes out.

The shifts shift `VY`.
-/

namespace Chip8.Alu

/-- The byte an operation leaves in `VX`, and its flag if it has one. -/
structure Outcome where
  result : UInt8
  flag : Option Bool
  deriving DecidableEq, Repr

/-- The outcome of an operation on the values of `VX` and `VY`. -/
def Operation.apply (vx vy : UInt8) : Operation → Outcome
  | set => ⟨vy, none⟩
  | or => ⟨vx ||| vy, none⟩
  | and => ⟨vx &&& vy, none⟩
  | xor => ⟨vx ^^^ vy, none⟩
  | add => ⟨vx + vy, some (255 < vx.toNat + vy.toNat)⟩
  | subXY => ⟨vx - vy, some (vy ≤ vx)⟩
  | shiftRight => ⟨vy >>> 1, some (vy &&& 1 != 0)⟩
  | subYX => ⟨vy - vx, some (vx ≤ vy)⟩
  | shiftLeft => ⟨vy <<< 1, some (vy &&& 0x80 != 0)⟩

/-- A flag as a register value. -/
def flagByte (flag : Bool) : UInt8 :=
  if flag then 1 else 0

end Chip8.Alu
