import Chip8.Opcode
import Chip8.State
import Chip8.Text.Numeral

/-!
Trace records: one executed instruction and the state it left behind.  A record keeps the address
and the word of the instruction and the registers, timers and status after it; the kind of the
instruction and its operand fields follow from the word.

`Record.line` is a record as one line of text.
-/

namespace Chip8

/-- An executed instruction and what it left behind. -/
structure Record where
  address : Int
  word : Int
  registers : Vector UInt8 16
  index : UInt16
  pc : UInt16
  delayTimer : UInt8
  soundTimer : UInt8
  status : Status
  deriving DecidableEq

namespace Record

/-- The record of an instruction word at an address, with the state after it. -/
def ofState (address word : Int) (s : State) : Record where
  address := address
  word := word
  registers := s.registers
  index := s.index
  pc := s.pc
  delayTimer := s.delayTimer
  soundTimer := s.soundTimer
  status := s.status

/-- The word in sixteen bits, from which kind and operands are read. -/
def bits (r : Record) : Word :=
  Word.ofInt r.word

/-- The kind of the instruction. -/
def opcode (r : Record) : Opcode :=
  Opcode.ofWord r.bits

/-- The registers of a record, two digits each. -/
def registersText (r : Record) : String :=
  " ".intercalate (r.registers.toList.map fun v => Text.hexadecimal 2 v.toNat)

/-- A record as one line. -/
def line (r : Record) : String :=
  "0x" ++ Text.hexadecimal 3 r.address ++ ": " ++ Text.hexadecimal 4 r.word ++ " " ++
    Text.padRight 28 r.opcode.name ++
    " PC=0x" ++ Text.hexadecimal 3 r.pc.toNat ++ " I=0x" ++ Text.hexadecimal 3 r.index.toNat ++
    " V=[" ++ r.registersText ++ "]" ++
    " DT=" ++ toString r.delayTimer.toNat ++ " ST=" ++ toString r.soundTimer.toNat ++
    " " ++ r.status.label

end Record

end Chip8
