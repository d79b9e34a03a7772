import Chip8.Error
import Chip8.Font
import Chip8.Host.Key

/-!
Numbers a host passes to the machine's own arithmetic, which works on 32 bit integers.

A plain integer must fit in 32 bits and is refused otherwise; one with a storage type is cut down to
its low bits.  A truth value counts as zero or one.  Where a narrower integer is wanted the low bits
are kept, and a fraction, first brought to single precision, loses its part after the point and is
held within the range.
-/

namespace Chip8.Host

/-- An integer of 32 bits, if it fits. -/
def int32? (i : Int) : Option Int32 :=
  if -2147483648 ≤ i ∧ i ≤ 2147483647 then some (Int32.ofInt i) else none

/-- A truth value as a number. -/
def bit (b : Bool) : Int :=
  if b then 1 else 0

namespace Value

/-- The plain integer a value is, for calls that take no other kind. -/
def plainInt : Value → Except Error Int
  | number (.bool b) => .ok (bit b)
  | number (.int i) => .ok i
  | _ => .error .wrongType

/-- A value as an integer of 32 bits. -/
def int32 : Value → Except Error Int32
  | number (.bool b) | sized _ _ (.bool b) => .ok (Int32.ofInt (bit b))
  | number (.int i) =>
    match int32? i with
    | some w => .ok w
    | none => .error .overflow
  | sized _ _ (.int i) => .ok (Int32.ofInt i)
  | _ => .error .wrongType

/-- A value as an instruction word: the low sixteen bits of an integer of 32. -/
def word (v : Value) : Except Error Word :=
  v.int32.map fun w => Word.ofInt w.toInt

/-- A value as a byte: the low eight bits of an integer, or a fraction without its part after the
point. -/
def byte : Value → Except Error UInt8
  | number (.real x) | sized _ _ (.real x) => .ok x.toFloat32.toUInt8
  | v => v.int32.map fun w => UInt8.ofInt w.toInt

/-- A value as a truth value of the machine: whether a number is other than zero. -/
def truth : Value → Except Error Bool
  | number (.real x) | sized _ _ (.real x) => .ok (x.toFloat32 != 0)
  | v => v.int32.map (· != 0)

/-- The key that a value stands for as a seed: an integer of 64 bits. -/
def seed (v : Value) : Except Error Key :=
  match v.index? with
  | some i =>
    match Key.ofSeed? i with
    | some key => .ok key
    | none => .error .overflow
  | none => .error .wrongType

/-- The greatest number of cycles that can be asked for. -/
def maxCount : Int := 9223372036854775807

/-- The number of cycles a value asks for; a negative number asks for none. -/
def count (v : Value) : Except Error Nat :=
  match v.index? with
  | some i => if i ≤ maxCount then .ok i.toNat else .error .overflow
  | none => .error .wrongType

/-- The number of cycles a run goes on for.  A run without a description, or with an empty one, is
described by the number itself, which is written before it is counted. -/
def runLength (v : Value) (description : Option String) : Except Error Nat :=
  match v.index? with
  | some i =>
    if description.any (!·.isEmpty) || (Number.int i).isWritable then v.count
    else .error .tooManyDigits
  | none => .error .wrongType

/-- The low nibble of a number; of a fraction, held within sixteen bits, the part before the point
counts. -/
def lowNibble : Value → Except Error Nibble
  | number (.bool b) | sized _ _ (.bool b) => .ok (Nibble.ofInt (bit b))
  | number (.int i) | sized _ _ (.int i) => .ok (Nibble.ofInt i)
  | number (.real x) | sized _ _ (.real x) => .ok (Nibble.ofInt x.toFloat32.toUInt16.toNat)
  | _ => .error .wrongType

/-- The address of the glyph of the digit a value stands for.  An integer that can be inspected must
be a digit; of any other number the low nibble counts. -/
def glyphAddress (v : Value) : Except Error Nat :=
  match v with
  | number (.int i) | sized .host (.signed _) (.int i) | sized .host (.unsigned _) (.int i) =>
    match Nibble.ofInt? i with
    | some digit => .ok (Font.glyphAddress digit)
    | none => .error (Error.notADigit i).raised
  | v => v.lowNibble.map Font.glyphAddress

end Value

end Chip8.Host
