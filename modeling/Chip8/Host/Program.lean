import Chip8.Error
import Chip8.Host.Sequence
import Chip8.Memory

/-!
Programs handed over by a host.  A byte buffer is a program as it stands.  Any other value is read
as an array, which must be a single row of integers between 0 and 255, or hold nothing at all.

`Value.programBytes` says what bytes a value stands for and `Memory.loadProgram` stores them.  A
value that is refused changes nothing.
-/

namespace Chip8

namespace Host.Value

/-- The byte an integer is, if it is one. -/
def byte? (i : Int) : Option UInt8 :=
  if 0 ≤ i ∧ i ≤ 255 then some (UInt8.ofInt i) else none

/-- The bytes of a row of elements of integer type. -/
def rowBytes? (row : List Value) : Option (List UInt8) :=
  row.mapM fun v => v.elementInt?.bind byte?

/-- The bytes of a value that is no buffer. -/
def arrayBytes (v : Value) : Except Error (List UInt8) :=
  match v.extents with
  | .tooDeep => .error (.tooDeep maxExtents)
  | .ragged extents => .error (.ragged extents)
  | .regular extents =>
    let row := v.elements
    let type := sharedType row
    if extents.contains 0 then
      .ok []
    else if extents.length = 1 ∧ type.isInteger then
      match rowBytes? row with
      | some bytes => .ok bytes
      | none => .error .notBytes
    else
      .error (.notFlat type extents)

/-- The bytes of the program a value stands for. -/
def programBytes : Value → Except Error (List UInt8)
  | buffer _ data => .ok data
  | v => v.arrayBytes

end Host.Value

/-- Memory with a program stored from `0x200` on. -/
def Memory.loadProgram (m : Memory) (program : List UInt8) : Except Error Memory :=
  if program.length ≤ Memory.maxProgramSize then
    .ok (m.writeAll Memory.programStart program)
  else
    .error (.programTooLarge program.length Memory.maxProgramSize)

end Chip8
