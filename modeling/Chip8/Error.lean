import Chip8.Console.Level
import Chip8.Host.Literal
import Chip8.Status
import Chip8.Text.Numeral

/-!
What can go wrong between a host and a machine.

`Error` enumerates the causes.  Those that concern a program and its machine carry where the program
was; the others concern a value the host passed.  `Error.message` is the one place where a cause is
put into words, and `Error.raised` is what comes of a cause whose words hold a number too long to be
written.
-/

namespace Chip8

/-- Machine faults that are told by the place alone. -/
inductive FaultKind
  | general
  | stackUnderflow
  | stackOverflow
  | protectedWrite
  deriving DecidableEq, Repr

/-- The name of a kind of fault, which also opens its message. -/
def FaultKind.name : FaultKind → String
  | general => "MachineFault"
  | stackUnderflow => "StackUnderflow"
  | stackOverflow => "StackOverflow"
  | protectedWrite => "ProtectedMemoryWrite"

/-- The cause of a refused call. -/
inductive Error
  /-- Something went wrong with a machine, as the text says. -/
  | general (text : String)
  /-- An instruction could not be executed.  A text that is not empty replaces the name of the
  kind. -/
  | fault (kind : FaultKind) (pc instruction : Option Int) (text : String)
  /-- An address outside memory was used. -/
  | addressOutOfRange (address pc instruction : Option Int)
  /-- The machine is halted. -/
  | machineHalted (text : String)
  /-- A program is too long for memory. -/
  | programTooLarge (size limit : Int)
  /-- A value that names no key was used as one. -/
  | invalidKey (key : Host.Value)
  /-- A word names no instruction, and the machine is strict. -/
  | unimplementedOpcode (pc instruction : Int)
  /-- A number that is no hexadecimal digit was used as one. -/
  | notADigit (digit : Int)
  /-- A program is not a flat sequence of integers. -/
  | notFlat (type : Host.ElementType) (extents : List Nat)
  /-- The items of a program are not laid out in rows of equal length. -/
  | ragged (extents : List Nat)
  /-- A sequence is nested more deeply than an array can be. -/
  | tooDeep (limit : Nat)
  /-- A program holds an integer that is not a byte. -/
  | notBytes
  /-- There is no log level of that name. -/
  | unknownLevel (name : String)
  /-- A recorder was asked to keep a negative number of records. -/
  | negativeLimit
  /-- A value of a kind that is not written in base sixteen. -/
  | notHexadecimal (kind : String)
  /-- A machine is halted by a status that has no name. -/
  | unnamedStatus (code : Nat)
  /-- A fatal status stands for no fault. -/
  | unknownFault (code : Int)
  /-- A value is of a kind that the call has no use for. -/
  | wrongType
  /-- A number does not fit where it is used. -/
  | overflow
  /-- A value that is not text was used as the name of a log level. -/
  | notText
  /-- There is no recorder of that number. -/
  | noSuchRecorder
  /-- An integer is too long to be written in base ten. -/
  | tooManyDigits

namespace Error

/-- An address behind a text, three hexadecimal digits at least. -/
def atAddress (text : String) (a : Int) : String :=
  text ++ "0x" ++ Text.hexadecimal 3 a

/-- Where a fault happened, as far as it is known. -/
def place (pc instruction : Option Int) : String :=
  (match pc with
    | some a => atAddress " at " a
    | none => "") ++
  (match instruction with
    | some w => " (instruction 0x" ++ Text.hexadecimal 4 w ++ ")"
    | none => "")

/-- The extents of an array in brackets. -/
def extentsText (extents : List Nat) : String :=
  Host.Value.bracketed (extents.map toString)

/-- A cause in words; nothing for causes that only their kind tells. -/
def message : Error → String
  | general text => text
  | fault kind pc instruction text =>
    (if text.isEmpty then kind.name else text) ++ place pc instruction
  | addressOutOfRange address pc instruction =>
    (match address with
      | some a => "Address 0x" ++ Text.hexadecimal 1 a ++ " out of range"
      | none => "Address out of range") ++ place pc instruction
  | machineHalted text => text
  | programTooLarge size limit =>
    "Program is " ++ toString size ++ " bytes, at most " ++ toString limit ++
      " bytes fit in memory"
  | invalidKey key => "Invalid key index " ++ key.literal ++ ", expected 0-15"
  | unimplementedOpcode pc instruction =>
    atAddress ("Unimplemented opcode 0x" ++ Text.hexadecimal 4 instruction ++ " at ") pc
  | notADigit digit => "Font digit must be 0-15, got " ++ toString digit
  | notFlat type extents =>
    "Program must be a flat sequence of integers, got " ++ type.name ++ " of shape " ++
      extentsText extents
  | ragged extents =>
    "setting an array element with a sequence. The requested array has an inhomogeneous shape " ++
      "after " ++ toString extents.length ++ " dimensions. The detected shape was " ++
      extentsText extents ++ " + inhomogeneous part."
  | tooDeep limit =>
    "setting an array element with a sequence. The requested array would exceed the maximum " ++
      "number of dimension of " ++ toString limit ++ "."
  | notBytes => "Program values must be bytes (0-255)"
  | unknownLevel name =>
    "Unknown log level '" ++ name ++ "'. Available: [" ++
      ", ".intercalate (Level.all.map fun l => Text.quoted l.name) ++ "]"
  | negativeLimit => "maxlen must be non-negative"
  | notHexadecimal kind => "Unknown format code 'X' for object of type '" ++ kind ++ "'"
  | unnamedStatus code => toString code
  | unknownFault code => "Unknown fatal status " ++ toString code
  | tooManyDigits =>
    "Exceeds the limit (4300 digits) for integer string conversion; " ++
      "use sys.set_int_max_str_digits() to increase the limit"
  | wrongType | overflow | notText | noSuchRecorder => ""

/-- The name of a cause that concerns a machine. -/
def name? : Error → Option String
  | general _ => some "Chip8Error"
  | fault kind _ _ _ => some kind.name
  | addressOutOfRange _ _ _ => some "AddressOutOfRange"
  | machineHalted _ => some "MachineHalted"
  | programTooLarge _ _ => some "ProgramTooLarge"
  | invalidKey _ => some "InvalidKeyIndex"
  | unimplementedOpcode _ _ => some "UnimplementedOpcode"
  | _ => none

/-! ### Making an error -/

/-- The message can be put into words: the numbers and values in it that a host has passed have a
text.  Numbers in base sixteen always have one. -/
def isWritable : Error → Bool
  | programTooLarge size limit =>
    (Host.Number.int size).isWritable && (Host.Number.int limit).isWritable
  | invalidKey key => key.isWritable
  | notADigit digit => (Host.Number.int digit).isWritable
  | unknownFault code => (Host.Number.int code).isWritable
  | _ => true

/-- What comes of raising an error.  Its message is written first, and where that fails there is no
such error. -/
def raised (e : Error) : Error :=
  if e.isWritable then e else tooManyDigits

end Error

end Chip8
