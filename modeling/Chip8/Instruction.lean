import Chip8.Opcode

/-!
Instructions.  `Instruction.ofWord` reads a word once, into the operation it asks for and that
operation's own operands; what runs afterwards never looks at the word again.

Two families are factored out: the tests that decide a skip (`Condition`) and the register
arithmetic of the words `8XYN` (`Alu.Operation`).
-/

namespace Chip8

/-- What a skip instruction tests. -/
inductive Condition
  /-- `VX` is the byte `nn`. -/
  | equalsByte (x : Nibble) (nn : UInt8)
  /-- `VX` is another byte than `nn`. -/
  | differsByte (x : Nibble) (nn : UInt8)
  /-- `VX` is `VY`. -/
  | equalsRegister (x y : Nibble)
  /-- `VX` is not `VY`. -/
  | differsRegister (x y : Nibble)
  /-- The key named by the low nibble of `VX` is down. -/
  | keyDown (x : Nibble)
  /-- The key named by the low nibble of `VX` is up. -/
  | keyUp (x : Nibble)
  deriving DecidableEq, Repr

/-- An arithmetic or logical operation on two registers. -/
inductive Alu.Operation
  | set
  | or
  | and
  | xor
  | add
  | subXY
  | shiftRight
  | subYX
  | shiftLeft
  deriving DecidableEq, Repr

/-- An instruction with its operands. -/
inductive Instruction
  /-- A word that names no instruction. -/
  | unimplemented
  /-- `00E0`: switch every pixel off. -/
  | clearScreen
  /-- `00EE`: return from a subroutine. -/
  | ret
  /-- `1NNN`: go on at the target. -/
  | jump (target : Address)
  /-- `2NNN`: call the subroutine at the target. -/
  | call (target : Address)
  /-- `3XNN`, `4XNN`, `5XY0`, `9XY0`, `EX9E`, `EXA1`: pass over the next word if the condition
  holds. -/
  | skip (condition : Condition)
  /-- `6XNN`: put a byte into `VX`. -/
  | set (x : Nibble) (nn : UInt8)
  /-- `7XNN`: add a byte to `VX`, leaving the flag alone. -/
  | add (x : Nibble) (nn : UInt8)
  /-- `8XYN`: combine `VX` with `VY`. -/
  | alu (operation : Alu.Operation) (x y : Nibble)
  /-- `ANNN`: put an address into `I`. -/
  | setIndex (address : Address)
  /-- `BNNN`: go on at the target plus `V0`. -/
  | jumpWithOffset (target : Address)
  /-- `CXNN`: put a random byte, masked, into `VX`. -/
  | random (x : Nibble) (mask : UInt8)
  /-- `DXYN`: draw the `N` bytes at `I` at the position `(VX, VY)`. -/
  | draw (x y height : Nibble)
  /-- `FX07`: copy the delay timer into `VX`. -/
  | getDelayTimer (x : Nibble)
  /-- `FX0A`: wait for a key and put its number into `VX`. -/
  | waitForKey (x : Nibble)
  /-- `FX15`: set the delay timer from `VX`. -/
  | setDelayTimer (x : Nibble)
  /-- `FX18`: set the sound timer from `VX`. -/
  | setSoundTimer (x : Nibble)
  /-- `FX1E`: add `VX` to `I`. -/
  | addToIndex (x : Nibble)
  /-- `FX29`: point `I` at the glyph of the low nibble of `VX`. -/
  | fontCharacter (x : Nibble)
  /-- `FX33`: store the three decimal digits of `VX` at `I`. -/
  | bcdConversion (x : Nibble)
  /-- `FX55`: store `V0` to `VX` at `I`. -/
  | storeRegisters (x : Nibble)
  /-- `FX65`: load `V0` to `VX` from `I`. -/
  | loadRegisters (x : Nibble)
  deriving DecidableEq, Repr

namespace Instruction

/-- The instruction a word spells. -/
def ofWord (w : Word) : Instruction :=
  match Opcode.ofWord w with
  | .unimplemented => unimplemented
  | .clearScreen => clearScreen
  | .ret => ret
  | .jump => jump w.nnn
  | .call => call w.nnn
  | .skipIfEqualImmediate => skip (.equalsByte w.x w.nn)
  | .skipIfNotEqualImmediate => skip (.differsByte w.x w.nn)
  | .skipIfEqualRegister => skip (.equalsRegister w.x w.y)
  | .set => set w.x w.nn
  | .add => add w.x w.nn
  | .aluSet => alu .set w.x w.y
  | .aluOr => alu .or w.x w.y
  | .aluAnd => alu .and w.x w.y
  | .aluXor => alu .xor w.x w.y
  | .aluAdd => alu .add w.x w.y
  | .aluSubXY => alu .subXY w.x w.y
  | .aluShiftRight => alu .shiftRight w.x w.y
  | .aluSubYX => alu .subYX w.x w.y
  | .aluShiftLeft => alu .shiftLeft w.x w.y
  | .skipIfNotEqualRegister => skip (.differsRegister w.x w.y)
  | .setIndex => setIndex w.nnn
  | .jumpWithOffset => jumpWithOffset w.nnn
  | .random => random w.x w.nn
  | .draw => draw w.x w.y w.n
  | .skipIfKey => skip (.keyDown w.x)
  | .skipIfNotKey => skip (.keyUp w.x)
  | .getDelayTimer => getDelayTimer w.x
  | .waitForKey => waitForKey w.x
  | .setDelayTimer => setDelayTimer w.x
  | .setSoundTimer => setSoundTimer w.x
  | .addToIndex => addToIndex w.x
  | .fontCharacter => fontCharacter w.x
  | .bcdConversion => bcdConversion w.x
  | .storeRegisters => storeRegisters w.x
  | .loadRegisters => loadRegisters w.x

/-- The kind of an instruction. -/
def opcode : Instruction → Opcode
  | unimplemented => .unimplemented
  | clearScreen => .clearScreen
  | ret => .ret
  | jump _ => .jump
  | call _ => .call
  | skip (.equalsByte _ _) => .skipIfEqualImmediate
  | skip (.differsByte _ _) => .skipIfNotEqualImmediate
  | skip (.equalsRegister _ _) => .skipIfEqualRegister
  | skip (.differsRegister _ _) => .skipIfNotEqualRegister
  | skip (.keyDown _) => .skipIfKey
  | skip (.keyUp _) => .skipIfNotKey
  | set _ _ => .set
  | add _ _ => .add
  | alu .set _ _ => .aluSet
  | alu .or _ _ => .aluOr
  | alu .and _ _ => .aluAnd
  | alu .xor _ _ => .aluXor
  | alu .add _ _ => .aluAdd
  | alu .subXY _ _ => .aluSubXY
  | alu .shiftRight _ _ => .aluShiftRight
  | alu .subYX _ _ => .aluSubYX
  | alu .shiftLeft _ _ => .aluShiftLeft
  | setIndex _ => .setIndex
  | jumpWithOffset _ => .jumpWithOffset
  | random _ _ => .random
  | draw _ _ _ => .draw
  | getDelayTimer _ => .getDelayTimer
  | waitForKey _ => .waitForKey
  | setDelayTimer _ => .setDelayTimer
  | setSoundTimer _ => .setSoundTimer
  | addToIndex _ => .addToIndex
  | fontCharacter _ => .fontCharacter
  | bcdConversion _ => .bcdConversion
  | storeRegisters _ => .storeRegisters
  | loadRegisters _ => .loadRegisters

/-- The instruction of a word has the kind of the word. -/
theorem opcode_ofWord (w : Word) : (ofWord w).opcode = Opcode.ofWord w := by
  unfold ofWord
  cases Opcode.ofWord w <;> rfl

end Instruction

end Chip8
