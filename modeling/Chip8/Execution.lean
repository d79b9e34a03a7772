import Chip8.Alu
import Chip8.State

/-!
Executing one instruction.

An instruction first declares what it needs: `Instruction.access` gives the bytes of memory from `I`
on that it reads or writes, and `State.fault?` tests that and the call stack.  If there is a fault
the instruction does nothing.  Otherwise `State.perform` is its effect.

`State.attempt` puts the two together, and `State.execute` records a fault as a status and leaves
all else alone.
-/

namespace Chip8

/-! ### Faults -/

/-- A range of memory that starts at `I`. -/
structure Access where
  length : Nat
  writes : Bool
  deriving DecidableEq, Repr

/-- The bytes of memory an instruction touches beyond its own. -/
def Instruction.access : Instruction → Access
  | draw _ _ height => ⟨height.val, false⟩
  | bcdConversion _ => ⟨3, true⟩
  | storeRegisters x => ⟨x.val + 1, true⟩
  | loadRegisters x => ⟨x.val + 1, false⟩
  | _ => ⟨0, false⟩

namespace State

/-- The fault an instruction would cause. -/
def fault? (s : State) (i : Instruction) : Option Fault :=
  match i with
  | .ret => if s.stack.isEmpty then some .stackUnderflow else none
  | .call _ => if s.stack.isFull then some .stackOverflow else none
  | i =>
    Memory.accessFault? (Int32.ofNat s.index.toNat) (Int32.ofNat i.access.length) i.access.writes

/-! ### Effects -/

/-- Whether a skip condition holds. -/
def holds (s : State) : Condition → Bool
  | .equalsByte x nn => s.register x == nn
  | .differsByte x nn => s.register x != nn
  | .equalsRegister x y => s.register x == s.register y
  | .differsRegister x y => s.register x != s.register y
  | .keyDown x => s.keyDown (Nibble.ofByte (s.register x))
  | .keyUp x => !s.keyDown (Nibble.ofByte (s.register x))

/-- The state with the outcome of an operation stored: the flag first, then the result, so that with
`X = F` the result is what remains. -/
def setOutcome (s : State) (x : Nibble) (o : Alu.Outcome) : State :=
  match o.flag with
  | some flag => (s.setRegister flagRegister (Alu.flagByte flag)).setRegister x o.result
  | none => s.setRegister x o.result

/-- The sprite a draw instruction shows: rows from `I` on, at the position `(VX, VY)` brought onto
the grid. -/
def sprite (s : State) (x y height : Nibble) : Sprite where
  left := ⟨(s.register x).toNat % 64, Nat.mod_lt _ (by decide)⟩
  top := ⟨(s.register y).toNat % 32, Nat.mod_lt _ (by decide)⟩
  rows := (List.range height.val).map fun k => s.memory.read (s.index.toNat + k)

/-- The three decimal digits of a byte. -/
def decimalDigits (b : UInt8) : List UInt8 :=
  [b / 100, b / 10 % 10, b % 10]

/-- The values of `V0` to `VX`. -/
def registersUpTo (s : State) (x : Nibble) : List UInt8 :=
  s.registers.toList.take (x.val + 1)

/-- The effect of an instruction that causes no fault. -/
def perform (s : State) : Instruction → State
  | .unimplemented => s.withStatus .unimplementedOpcode
  | .clearScreen => { s with display := Display.blank }
  | .ret => { s with pc := s.stack.pop.1, stack := s.stack.pop.2 }
  | .jump target => { s with pc := UInt16.ofNat target.val }
  | .call target => { s with stack := s.stack.push s.pc, pc := UInt16.ofNat target.val }
  | .skip condition => if s.holds condition then { s with pc := s.pc + 2 } else s
  | .set x nn => s.setRegister x nn
  | .add x nn => s.setRegister x (s.register x + nn)
  | .alu operation x y => s.setOutcome x (operation.apply (s.register x) (s.register y))
  | .setIndex address => { s with index := UInt16.ofNat address.val }
  | .jumpWithOffset target => { s with pc := UInt16.ofNat target.val + (s.register offsetRegister).toUInt16 }
  | .random x mask => { s.setRegister x (s.rng.draw.1 &&& mask) with rng := s.rng.draw.2 }
  | .draw x y height =>
    let shown := s.sprite x y height
    { s.setRegister flagRegister (Alu.flagByte (s.display.overlaps shown)) with
      display := s.display.toggle shown }
  | .getDelayTimer x => s.setRegister x s.delayTimer
  | .waitForKey x =>
    match s.lowestKeyDown? with
    | some k => s.setRegister x (UInt8.ofNat k.val)
    | none => { s with pc := s.pc - 2, status := .waitingForKey }
  | .setDelayTimer x => { s with delayTimer := s.register x }
  | .setSoundTimer x => { s with soundTimer := s.register x }
  | .addToIndex x => { s with index := s.index + (s.register x).toUInt16 }
  | .fontCharacter x =>
    { s with index := UInt16.ofNat (Font.glyphAddress (Nibble.ofByte (s.register x))) }
  | .bcdConversion x =>
    { s with memory := s.memory.writeAll s.index.toNat (decimalDigits (s.register x)) }
  | .storeRegisters x =>
    { s with memory := s.memory.writeAll s.index.toNat (s.registersUpTo x) }
  | .loadRegisters x =>
    { s with
      registers := Vector.ofFn fun k =>
        if k.val ≤ x.val then s.memory.read (s.index.toNat + k.val) else s.register k }

/-! ### Execution -/

/-- Execute an instruction, or name the fault it would cause. -/
def attempt (s : State) (i : Instruction) : Except Fault State :=
  match s.fault? i with
  | some f => .error f
  | none => .ok ((s.withStatus .ok).perform i)

/-- Execute the instruction a word spells.  A fault changes the status and nothing else. -/
def execute (s : State) (w : Word) : State :=
  match s.attempt (Instruction.ofWord w) with
  | .error f => s.withStatus f.status
  | .ok next => next

end State

end Chip8
