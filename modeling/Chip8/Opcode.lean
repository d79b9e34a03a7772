import Chip8.Word

/-!
The instruction set.  `Opcode` lists the thirty-four kinds of instruction a CHIP-8 machine
recognises and one more, `unimplemented`, for every other word.

Recognition is by table: `Opcode.patterns` gives for each kind a mask and a pattern, and a word is
of that kind when its masked bits are the pattern.  `Opcode.ofWord` takes the first entry that
matches and `Opcode.lastMatch` the last one; `patterns_disjoint` is the reason why the order of the
table does not matter.
-/

namespace Chip8

/-- A kind of instruction. -/
inductive Opcode
  | unimplemented
  | clearScreen
  | ret
  | jump
  | call
  | skipIfEqualImmediate
  | skipIfNotEqualImmediate
  | skipIfEqualRegister
  | set
  | add
  | aluSet
  | aluOr
  | aluAnd
  | aluXor
  | aluAdd
  | aluSubXY
  | aluShiftRight
  | aluSubYX
  | aluShiftLeft
  | skipIfNotEqualRegister
  | setIndex
  | jumpWithOffset
  | random
  | draw
  | skipIfKey
  | skipIfNotKey
  | getDelayTimer
  | waitForKey
  | setDelayTimer
  | setSoundTimer
  | addToIndex
  | fontCharacter
  | bcdConversion
  | storeRegisters
  | loadRegisters
  deriving DecidableEq, Repr

/-- An entry of the recognition table: words whose bits under `mask` are `bits` have kind
`opcode`. -/
structure Pattern where
  mask : Word
  bits : Word
  opcode : Opcode
  deriving DecidableEq, Repr

/-- A word matches when its masked bits are the pattern. -/
def Pattern.matches (p : Pattern) (w : Word) : Bool :=
  w &&& p.mask == p.bits

/-- No word matches both patterns: some bit under both masks is asked to differ. -/
def Pattern.disjoint (p q : Pattern) : Bool :=
  (p.mask &&& q.mask) &&& (p.bits ^^^ q.bits) != 0

namespace Opcode

/-- Every kind of instruction, in the order of the instruction words they cover. -/
def all : List Opcode :=
  [unimplemented, clearScreen, ret, jump, call, skipIfEqualImmediate, skipIfNotEqualImmediate,
    skipIfEqualRegister, set, add, aluSet, aluOr, aluAnd, aluXor, aluAdd, aluSubXY, aluShiftRight,
    aluSubYX, aluShiftLeft, skipIfNotEqualRegister, setIndex, jumpWithOffset, random, draw,
    skipIfKey, skipIfNotKey, getDelayTimer, waitForKey, setDelayTimer, setSoundTimer, addToIndex,
    fontCharacter, bcdConversion, storeRegisters, loadRegisters]

/-- The position of a kind in `all`. -/
def number (o : Opcode) : Nat :=
  o.ctorIdx

/-- The name of a kind in traces and statistics. -/
def name : Opcode → String
  | unimplemented => "UNIMPLEMENTED"
  | clearScreen => "CLEAR_SCREEN"
  | ret => "RETURN"
  | jump => "JUMP"
  | call => "CALL"
  | skipIfEqualImmediate => "SKIP_IF_EQUAL_IMMEDIATE"
  | skipIfNotEqualImmediate => "SKIP_IF_NOT_EQUAL_IMMEDIATE"
  | skipIfEqualRegister => "SKIP_IF_EQUAL_REGISTER"
  | set => "SET"
  | add => "ADD"
  | aluSet => "ALU_SET"
  | aluOr => "ALU_OR"
  | aluAnd => "ALU_AND"
  | aluXor => "ALU_XOR"
  | aluAdd => "ALU_ADD"
  | aluSubXY => "ALU_SUB_XY"
  | aluShiftRight => "ALU_SHIFT_RIGHT"
  | aluSubYX => "ALU_SUB_YX"
  | aluShiftLeft => "ALU_SHIFT_LEFT"
  | skipIfNotEqualRegister => "SKIP_IF_NOT_EQUAL_REGISTER"
  | setIndex => "SET_INDEX"
  | jumpWithOffset => "JUMP_WITH_OFFSET"
  | random => "RANDOM"
  | draw => "DRAW"
  | skipIfKey => "SKIP_IF_KEY"
  | skipIfNotKey => "SKIP_IF_NOT_KEY"
  | getDelayTimer => "GET_DELAY_TIMER"
  | waitForKey => "WAIT_FOR_KEY"
  | setDelayTimer => "SET_DELAY_TIMER"
  | setSoundTimer => "SET_SOUND_TIMER"
  | addToIndex => "ADD_TO_INDEX"
  | fontCharacter => "FONT_CHARACTER"
  | bcdConversion => "BCD_CONVERSION"
  | storeRegisters => "STORE_REGISTERS"
  | loadRegisters => "LOAD_REGISTERS"

/-! ### Recognition -/

/-- The recognition table.  A digit of the mask is `F` where the pattern fixes the nibble. -/
def patterns : List Pattern :=
  [⟨0xFFFF, 0x00E0, clearScreen⟩,
    ⟨0xFFFF, 0x00EE, ret⟩,
    ⟨0xF000, 0x1000, jump⟩,
    ⟨0xF000, 0x2000, call⟩,
    ⟨0xF000, 0x3000, skipIfEqualImmediate⟩,
    ⟨0xF000, 0x4000, skipIfNotEqualImmediate⟩,
    ⟨0xF00F, 0x5000, skipIfEqualRegister⟩,
    ⟨0xF000, 0x6000, set⟩,
    ⟨0xF000, 0x7000, add⟩,
    ⟨0xF00F, 0x8000, aluSet⟩,
    ⟨0xF00F, 0x8001, aluOr⟩,
    ⟨0xF00F, 0x8002, aluAnd⟩,
    ⟨0xF00F, 0x8003, aluXor⟩,
    ⟨0xF00F, 0x8004, aluAdd⟩,
    ⟨0xF00F, 0x8005, aluSubXY⟩,
    ⟨0xF00F, 0x8006, aluShiftRight⟩,
    ⟨0xF00F, 0x8007, aluSubYX⟩,
    ⟨0xF00F, 0x800E, aluShiftLeft⟩,
    ⟨0xF00F, 0x9000, skipIfNotEqualRegister⟩,
    ⟨0xF000, 0xA000, setIndex⟩,
    ⟨0xF000, 0xB000, jumpWithOffset⟩,
    ⟨0xF000, 0xC000, random⟩,
    ⟨0xF000, 0xD000, draw⟩,
    ⟨0xF0FF, 0xE09E, skipIfKey⟩,
    ⟨0xF0FF, 0xE0A1, skipIfNotKey⟩,
    ⟨0xF0FF, 0xF007, getDelayTimer⟩,
    ⟨0xF0FF, 0xF00A, waitForKey⟩,
    ⟨0xF0FF, 0xF015, setDelayTimer⟩,
    ⟨0xF0FF, 0xF018, setSoundTimer⟩,
    ⟨0xF0FF, 0xF01E, addToIndex⟩,
    ⟨0xF0FF, 0xF029, fontCharacter⟩,
    ⟨0xF0FF, 0xF033, bcdConversion⟩,
    ⟨0xF0FF, 0xF055, storeRegisters⟩,
    ⟨0xF0FF, 0xF065, loadRegisters⟩]

/-- The kind of a word: the first entry of the table that it matches. -/
def ofWord (w : Word) : Opcode :=
  match patterns.find? (·.matches w) with
  | some p => p.opcode
  | none => unimplemented

/-- The kind of a word by the last entry of the table that it matches. -/
def lastMatch (w : Word) : Opcode :=
  patterns.foldl (fun found p => if p.matches w then p.opcode else found) unimplemented

/-- Two entries of the table never match the same word. -/
theorem patterns_disjoint : patterns.Pairwise fun p q => p.disjoint q = true := by
  decide

/-- The numbers count the kinds from zero, in order. -/
theorem map_number_all : all.map number = List.range 35 := by
  decide

end Opcode

end Chip8
