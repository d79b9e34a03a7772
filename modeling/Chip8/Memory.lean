import Chip8.Cell
import Chip8.Status
import Chip8.Word

/-!
Memory: 4096 bytes, of which the eighty from `0x050` on hold the font and those from `0x200` on
take programs.

Reads are total: a read past the end answers with the last byte, and a write past the end is
dropped.  Instructions do not lean on this.  Before one touches memory, `Memory.accessFault?` says
whether its access leaves memory or would store into the font.

`read_write` gives the bytes after a store and `read_writeAll` those after storing a block.
-/

namespace Chip8

/-- The bytes a program sees. -/
structure Memory where
  bytes : Vector UInt8 4096
  deriving DecidableEq

namespace Memory

/-- The number of bytes. -/
def size : Nat := 4096

/-- Where programs are loaded and execution begins. -/
def programStart : Nat := 0x200

/-- The longest program that fits. -/
def maxProgramSize : Nat := size - programStart

/-- The first byte of the font. -/
def fontStart : Nat := 0x050

/-- The first byte after the font. -/
def fontEnd : Nat := 0x0A0

/-- Memory that holds zeros only. -/
def zero : Memory :=
  ⟨Vector.replicate 4096 0⟩

/-! ### Bytes and words -/

/-- The byte at an address; past the end, the last byte. -/
def read (m : Memory) (a : Nat) : UInt8 :=
  m.bytes[min a 4095]

/-- Memory with the byte at an address replaced; past the end, unchanged. -/
def write (m : Memory) (a : Nat) (b : UInt8) : Memory :=
  ⟨m.bytes.setIfInBounds a b⟩

/-- Memory with a block of bytes stored from an address on, one after the other. -/
def writeAll (m : Memory) (a : Nat) : List UInt8 → Memory
  | [] => m
  | b :: rest => (m.write a b).writeAll (a + 1) rest

/-- A word from its high and its low byte. -/
def joinBytes (high low : UInt8) : Word :=
  high.toUInt16 <<< 8 ||| low.toUInt16

/-- The big-endian word at an address. -/
def readWord (m : Memory) (a : Nat) : Word :=
  joinBytes (m.read a) (m.read (a + 1))

/-- The word at an address if both its bytes lie in memory. -/
def readWord? (m : Memory) (a : Int) : Option Word :=
  if 0 ≤ a ∧ a ≤ 4094 then some (m.readWord a.toNat) else none

/-- The byte at a signed address, read by the rules of `Cell`. -/
def readAt (m : Memory) (a : Int) : UInt8 :=
  m.read (Cell.nearest size a)

/-- Memory with the byte at a signed address replaced, by the rules of `Cell`. -/
def writeAt (m : Memory) (a : Int) (b : UInt8) : Memory :=
  match Cell.within? size a with
  | some k => m.write k b
  | none => m

/-! ### Reading what was written -/

theorem ext_read {m m' : Memory} (h : ∀ a < 4096, m.read a = m'.read a) : m = m' := by
  cases m with | mk v =>
  cases m' with | mk v' =>
  congr 1
  apply Vector.ext
  intro i hi
  have hmin : min i 4095 = i := by omega
  have hr := h i hi
  simp only [read, hmin] at hr
  exact hr

/-- A store changes the byte stored and no other. -/
theorem read_write (m : Memory) (a k : Nat) (b : UInt8) (hk : k < 4096) :
    (m.write a b).read k = if a = k then b else m.read k := by
  have hmin : min k 4095 = k := by omega
  simp only [read, write, hmin, Vector.getElem_setIfInBounds]

/-- A block store replaces the bytes of its range and no other. -/
theorem read_writeAll (m : Memory) (a : Nat) (bs : List UInt8) (k : Nat) (hk : k < 4096) :
    (m.writeAll a bs).read k = if a ≤ k then (bs[k - a]?).getD (m.read k) else m.read k := by
  induction bs generalizing m a with
  | nil => simp [writeAll]
  | cons b rest ih =>
    rw [writeAll, ih, read_write _ _ _ _ hk]
    by_cases hlt : k < a
    · rw [if_neg (by omega), if_neg (by omega), if_neg (by omega)]
    · by_cases heq : a = k
      · subst heq
        rw [if_neg (by omega), if_pos rfl, if_pos (Nat.le_refl a), Nat.sub_self]
        rfl
      · have hsucc : k - a = (k - (a + 1)) + 1 := by omega
        rw [if_pos (by omega), if_neg heq, if_pos (by omega), hsucc, List.getElem?_cons_succ]

/-! ### Access faults -/

/-- The fault an access of `length` bytes from `start` would cause, if any.  The end of the range is
a 32 bit sum.  An access of no bytes never faults, and leaving memory comes before touching the
font. -/
def accessFault? (start length : Int32) (writes : Bool) : Option Fault :=
  let stop := start + length
  if 0 < length ∧ 4096 < stop then
    some .addressFault
  else if 0 < length ∧ writes ∧ start < 0x0A0 ∧ 0x050 < stop then
    some .protectedWrite
  else
    none

end Memory

end Chip8
