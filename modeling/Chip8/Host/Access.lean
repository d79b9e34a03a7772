import Chip8.Host.Conversion
import Chip8.Host.Program
import Chip8.State

/-!
Memory and pixels as a host reads and writes them.

An address that can be inspected is checked, and one outside memory is refused.  An integer that
lives on the device cannot be inspected; it is used as it is, by the rules of `Cell`.  Coordinates
are not checked: a pixel off the grid is off, and setting it changes nothing.
-/

namespace Chip8

namespace Host

/-! ### Addresses -/

/-- An address as a host passes it. -/
inductive Location
  /-- An integer that can be inspected. -/
  | known (a : Int)
  /-- An integer that cannot, with the storage type its successors have. -/
  | unknown (type : ElementType) (a : Int)

/-- The address a value stands for. -/
def Value.location : Value → Except Error Location
  | number (.int i) | sized .host (.signed _) (.int i) | sized .host (.unsigned _) (.int i) =>
    .ok (.known i)
  | sized .device type (.int i) => if type.isInteger then .ok (.unknown type i) else .error .wrongType
  | _ => .error .wrongType

namespace Location

/-- Refuse a location from which `length` bytes are known to leave memory. -/
def check (length : Nat) : Location → Except Error Unit
  | known a =>
    if 0 ≤ a ∧ a + length ≤ Memory.size then .ok ()
    else .error (.addressOutOfRange (some a) none none)
  | unknown _ _ => .ok ()

/-- The signed address of the byte at a distance from a location. -/
def offset (k : Nat) : Location → Int
  | known a => a + k
  | unknown type a => type.wrap (a + k)

end Location

/-! ### Coordinates -/

/-- A coordinate as a host passes it. -/
inductive Coordinate
  /-- A plain integer or truth value. -/
  | plain (i : Int)
  /-- An integer or truth value with a storage type. -/
  | sized (i : Int)
  /-- A fraction. -/
  | fraction (x : Float)

/-- The coordinate a value stands for. -/
def Value.coordinate : Value → Except Error Coordinate
  | number (.bool b) => .ok (.plain (bit b))
  | number (.int i) => .ok (.plain i)
  | number (.real x) | sized _ _ (.real x) => .ok (.fraction x)
  | sized _ _ (.bool b) => .ok (.sized (bit b))
  | sized _ _ (.int i) => .ok (.sized i)
  | _ => .error .wrongType

namespace Coordinate

/-- Whether a coordinate lies between zero and a limit, the limit excluded. -/
def within (limit : Nat) : Coordinate → Bool
  | plain i | sized i => 0 ≤ i ∧ i < limit
  | fraction x => 0 ≤ x ∧ x < limit.toFloat

/-- Plain integers must fit in 32 bits. -/
def fits : Coordinate → Except Error Unit
  | plain i => if (int32? i).isSome then .ok () else .error .overflow
  | _ => .ok ()

/-- The integer a coordinate is. -/
def whole : Coordinate → Except Error Int
  | plain i | sized i => .ok i
  | fraction _ => .error .wrongType

end Coordinate

/-- Whether two coordinates lie on the grid.  Fractions are compared as they are. -/
def inBounds (x y : Value) : Except Error Bool := do
  let x ← x.coordinate
  let y ← y.coordinate
  .ok (x.within Display.width && y.within Display.height)

/-- Whether two values are plain integers of which one lies off the grid. -/
def plainlyOff (x y : Value) : Bool :=
  match x.coordinate, y.coordinate with
  | .ok (.plain i), .ok (.plain j) => (Display.cell? i j).isNone
  | _, _ => false

end Host

/-! ### Reading and writing -/

namespace Memory

/-- The byte at an address a host passes. -/
def hostRead (m : Memory) (address : Host.Value) : Except Error UInt8 := do
  let a ← address.location
  a.check 1
  .ok (m.readAt (a.offset 0))

/-- The word at an address a host passes. -/
def hostReadWord (m : Memory) (address : Host.Value) : Except Error Word := do
  let a ← address.location
  a.check 2
  .ok (joinBytes (m.readAt (a.offset 0)) (m.readAt (a.offset 1)))

/-- Memory with the byte at an address a host passes replaced.  An address outside memory is refused
before the byte is looked at, one of a useless kind after it. -/
def hostWrite (m : Memory) (address byte : Host.Value) : Except Error Memory := do
  match address.location with
  | .ok a =>
    a.check 1
    let b ← byte.byte
    .ok (m.writeAt (a.offset 0) b)
  | .error e =>
    let _ ← byte.byte
    .error e

end Memory

namespace Display

/-- The pixel at a pair of coordinates a host passes. -/
def hostPixel (d : Display) (x y : Host.Value) : Except Error Bool := do
  let x ← x.coordinate
  let y ← y.coordinate
  x.fits
  y.fits
  .ok (d.pixelAt (← x.whole) (← y.whole))

/-- The grid with the pixel at a pair of coordinates a host passes replaced. -/
def hostSetPixel (d : Display) (x y on : Host.Value) : Except Error Display := do
  if Host.plainlyOff x y then
    .ok d
  else
    let i ← x.coordinate
    i.fits
    let j ← y.coordinate
    j.fits
    let on ← on.truth
    .ok (d.setPixel (← i.whole) (← j.whole) on)

end Display

/-- The state with the program a value stands for loaded. -/
def State.loadProgram (s : State) (program : Host.Value) : Except Error State := do
  let bytes ← program.programBytes
  let memory ← s.memory.loadProgram bytes
  .ok { s with memory := memory }

end Chip8
