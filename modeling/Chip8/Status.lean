/-!
Status codes.  After every cycle a machine records one byte that says how the cycle ended.  Seven
codes have names; codes from three on are fatal and halt the machine.  A host may store any byte,
so `Status` is the byte, with its named values, and not an enumeration.

`Fault` enumerates the four fatal causes an instruction can have.  `Fault.status` numbers them and
`Fault.ofCode?` reads the number back.
-/

namespace Chip8

/-- How a cycle ended. -/
structure Status where
  code : UInt8
  deriving DecidableEq, Repr

namespace Status

/-- The cycle ended normally. -/
def ok : Status := ⟨0⟩

/-- The instruction waits for a key and is executed again. -/
def waitingForKey : Status := ⟨1⟩

/-- The word names no instruction and was passed over. -/
def unimplementedOpcode : Status := ⟨2⟩

/-- The lowest of the fatal codes. -/
def firstFatal : Status := ⟨3⟩

/-- A machine whose status is fatal executes nothing more. -/
def isFatal (s : Status) : Bool :=
  firstFatal.code ≤ s.code

/-- The name of a code that has one. -/
def name? (s : Status) : Option String :=
  match s.code.toNat with
  | 0 => some "ok"
  | 1 => some "waiting_for_key"
  | 2 => some "unimplemented_opcode"
  | 3 => some "stack_underflow"
  | 4 => some "stack_overflow"
  | 5 => some "address_fault"
  | 6 => some "protected_write"
  | _ => none

/-- The name of a code, or its number where it has none. -/
def label (s : Status) : String :=
  s.name?.getD (toString s.code.toNat)

end Status

/-- A fatal cause. -/
inductive Fault
  /-- A return with no call pending. -/
  | stackUnderflow
  /-- A call with sixteen calls pending. -/
  | stackOverflow
  /-- A fetch or a data access that leaves memory. -/
  | addressFault
  /-- A store into the font glyphs. -/
  | protectedWrite
  deriving DecidableEq, Repr

namespace Fault

/-- The status code of a cause. -/
def status : Fault → Status
  | stackUnderflow => ⟨3⟩
  | stackOverflow => ⟨4⟩
  | addressFault => ⟨5⟩
  | protectedWrite => ⟨6⟩

/-- The cause a code stands for. -/
def ofCode? (code : Int) : Option Fault :=
  if code = 3 then some stackUnderflow
  else if code = 4 then some stackOverflow
  else if code = 5 then some addressFault
  else if code = 6 then some protectedWrite
  else none

@[simp]
theorem ofCode?_status (f : Fault) : ofCode? f.status.code.toNat = some f := by
  cases f <;> rfl

/-- Every cause is fatal. -/
@[simp]
theorem isFatal_status (f : Fault) : f.status.isFatal = true := by
  cases f <;> rfl

end Fault

end Chip8
