import Chip8.CallStack
import Chip8.Display
import Chip8.Font
import Chip8.Memory
import Chip8.Random
import Chip8.Status

/-!
The state of a machine: memory, registers, framebuffer, call stack, timers, keypad, the key of the
random stream and the status of the last cycle.

This file holds the state, the state a machine starts in, and the small operations on one field
that instructions and hosts share.
-/

namespace Chip8

/-- Everything a running program can read or change. -/
structure State where
  memory : Memory
  display : Display
  /-- The registers `V0` to `VF`. -/
  registers : Vector UInt8 16
  /-- The index register `I`. -/
  index : UInt16
  /-- The address of the next instruction. -/
  pc : UInt16
  stack : CallStack
  delayTimer : UInt8
  soundTimer : UInt8
  /-- Which keys are down. -/
  keypad : Vector Bool 16
  /-- The key of the random stream. -/
  rng : Key
  status : Status
  deriving DecidableEq

namespace State

/-- The number of the register that receives flags. -/
def flagRegister : Nibble := 15

/-- The number of the register that a jump with offset adds. -/
def offsetRegister : Nibble := 0

/-- The state a machine starts in: font loaded, execution at `0x200`, everything else off. -/
def initial (rng : Key) : State where
  memory := Memory.initial
  display := Display.blank
  registers := Vector.replicate 16 0
  index := 0
  pc := 0x200
  stack := CallStack.empty
  delayTimer := 0
  soundTimer := 0
  keypad := Vector.replicate 16 false
  rng := rng
  status := Status.ok

/-! ### Registers -/

/-- The value of a register. -/
def register (s : State) (x : Nibble) : UInt8 :=
  s.registers[x.val]

/-- The state with a register replaced. -/
def setRegister (s : State) (x : Nibble) (v : UInt8) : State :=
  { s with registers := s.registers.set x.val v }

theorem register_setRegister (s : State) (x k : Nibble) (v : UInt8) :
    (s.setRegister x v).register k = if x = k then v else s.register k := by
  simp only [register, setRegister, Vector.getElem_set, Fin.ext_iff]

/-! ### Keys -/

/-- Whether a key is down. -/
def keyDown (s : State) (k : Nibble) : Bool :=
  s.keypad[k.val]

/-- The state with the level of a key replaced. -/
def setKey (s : State) (k : Nibble) (down : Bool) : State :=
  { s with keypad := s.keypad.set k.val down }

/-- The key that is down and has the lowest number. -/
def lowestKeyDown? (s : State) : Option Nibble :=
  (List.finRange 16).find? s.keyDown

/-! ### Timers -/

/-- A timer after one tick: one less, stopping at zero. -/
def tick (t : UInt8) : UInt8 :=
  if 0 < t then t - 1 else t

/-- The state after both timers ticked. -/
def tickTimers (s : State) : State :=
  { s with delayTimer := tick s.delayTimer, soundTimer := tick s.soundTimer }

/-- The tone sounds while the sound timer runs. -/
def soundActive (s : State) : Bool :=
  0 < s.soundTimer

theorem toNat_tick (t : UInt8) : (tick t).toNat = t.toNat - 1 := by
  unfold tick
  split
  · rename_i h
    have h' : (1 : UInt8) ≤ t := by
      rw [UInt8.lt_iff_toNat_lt] at h
      rw [UInt8.le_iff_toNat_le]
      exact h
    rw [UInt8.toNat_sub_of_le _ _ h']
    rfl
  · rename_i h
    rw [UInt8.lt_iff_toNat_lt] at h
    have hz : (0 : UInt8).toNat = 0 := rfl
    omega

/-! ### Status -/

/-- The state with its status replaced. -/
def withStatus (s : State) (status : Status) : State :=
  { s with status := status }

/-- A fatal status has been recorded. -/
def halted (s : State) : Bool :=
  s.status.isFatal

end State

end Chip8
