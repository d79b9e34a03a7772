import Chip8.Cycle
import Chip8.Host.Access
import Chip8.Observer

/-!
Machines: a state, a console for messages, observers, and whether the machine is strict about words
that name no instruction.

A call of the host is a function from a machine to a `Reply`: the machine afterwards, the outcome,
and what happened meanwhile, in order.  A refused call leaves the state alone; a fault of the
program leaves it halted and otherwise as it was before the instruction.

`Machine.step` runs one cycle and turns the status it ends with into an outcome; `Machine.run`
repeats it until a call is refused.
-/

namespace Chip8

/-- A machine as a host holds it. -/
structure Machine where
  state : State
  console : Console
  observers : List Observer
  strict : Bool

/-- The answer to a call. -/
structure Reply (α : Type) where
  machine : Machine
  outcome : Except Error α
  events : List Event

namespace Machine

/-! ### Telling -/

/-- Write a message on the console. -/
def say (m : Machine) (level : Level) (text : String) : Machine × List Event :=
  let logged := m.console.log level.name text
  ({ m with console := logged.1 }, logged.2.toList.map .line)

/-- Send a notice to the observers. -/
def tell (m : Machine) (n : Notice) : Machine × List Event :=
  let told := Observer.receiveAll n m.observers
  ({ m with observers := told.1 }, told.2)

/-- Answer a call that changes the state or is refused, and tells nobody. -/
def update (m : Machine) (next : Except Error State) : Reply Unit :=
  match next with
  | .ok state => ⟨{ m with state := state }, .ok (), []⟩
  | .error e => ⟨m, .error e, []⟩

/-- Answer a call that only reads. -/
def observe {α : Type} (m : Machine) (outcome : Except Error α) : Reply α :=
  ⟨m, outcome, []⟩

/-! ### Faults -/

/-- The word at an address, if both its bytes lie in memory. -/
def instructionAt (m : Machine) (address : Int) : Option Word :=
  m.state.memory.readWord? address

/-- The error of a fatal code at the address of an instruction.  An address fault is either the
fetch itself or the access of the instruction through `I`. -/
def faultError (m : Machine) (code address : Int) : Error :=
  let instruction := (m.instructionAt address).map fun w => (w.toNat : Int)
  match Fault.ofCode? code with
  | some .stackUnderflow => .fault .stackUnderflow (some address) instruction ""
  | some .stackOverflow => .fault .stackOverflow (some address) instruction ""
  | some .protectedWrite => .fault .protectedWrite (some address) instruction ""
  | some .addressFault =>
    let target := if instruction.isNone then address else m.state.index.toNat
    .addressOutOfRange (some target) (some address) instruction
  | none => (Error.unknownFault code).raised

/-- The error of a step on a machine that is halted. -/
def haltedError (status : Status) : Error :=
  match status.name? with
  | some name => .machineHalted ("Machine halted after " ++ name)
  | none => .unnamedStatus status.code.toNat

/-! ### Cycles -/

/-- Report the fault that stopped the instruction at an address.  A fatal status that stands for no
fault is reported to nobody. -/
def reportFault (m : Machine) (address : Nat) : Reply Status :=
  let code := m.state.status.code.toNat
  let error := m.faultError code address
  match Fault.ofCode? code with
  | some _ =>
    let said := m.say .error error.message
    let told := said.1.tell (.fault error)
    ⟨told.1, .error error, said.2 ++ told.2⟩
  | none => ⟨m, .error error, []⟩

/-- Report that the word of a record names no instruction. -/
def reportUnimplemented (m : Machine) (record : Record) : Reply Status :=
  let error := Error.unimplementedOpcode record.address record.word
  let said := m.say .warning error.message
  let told := said.1.tell (.unimplemented record)
  ⟨told.1, if m.strict then .error error else .ok .unimplementedOpcode, said.2 ++ told.2⟩

/-- Report an instruction that has been executed, by its record. -/
def reportRecord (m : Machine) (record : Record) : Reply Status :=
  let told := m.tell (.instruction record)
  if m.state.status = .unimplementedOpcode then
    let rest := told.1.reportUnimplemented record
    ⟨rest.machine, rest.outcome, told.2 ++ rest.events⟩
  else
    ⟨told.1, .ok m.state.status, told.2⟩

/-- Report the instruction at an address, which has been executed.  Its word is read from memory as
it is now, and only if there is something to report or someone to report it to. -/
def reportInstruction (m : Machine) (address : Nat) : Reply Status :=
  if m.state.status = .unimplementedOpcode ∨ m.observers.isEmpty = false then
    match m.instructionAt address with
    | some word => m.reportRecord (Record.ofState address word.toNat m.state)
    | none => ⟨m, .error .wrongType, []⟩
  else
    ⟨m, .ok m.state.status, []⟩

/-- Run one cycle.  The outcome is the status it ends with. -/
def step (m : Machine) : Reply Status :=
  if m.state.halted then
    ⟨m, .error (haltedError m.state.status), []⟩
  else
    let next := { m with state := m.state.step }
    if next.state.halted then
      next.reportFault m.state.pc.toNat
    else
      next.reportInstruction m.state.pc.toNat

/-- Run cycles in a row, until a step is refused.  The outcome is the last status; `last` if there
are no cycles to run. -/
def runFrom (m : Machine) (last : Status) : Nat → Reply Status
  | 0 => ⟨m, .ok last, []⟩
  | n + 1 =>
    let first := m.step
    match first.outcome with
    | .error e => ⟨first.machine, .error e, first.events⟩
    | .ok status =>
      let rest := first.machine.runFrom status n
      ⟨rest.machine, rest.outcome, first.events ++ rest.events⟩

/-- Run a number of cycles that a value stands for.  A host can describe the run. -/
def run (m : Machine) (cycles : Host.Value) (description : Option String := none) : Reply Status :=
  match cycles.runLength description with
  | .ok n => m.runFrom .ok n
  | .error e => ⟨m, .error e, []⟩

/-! ### Other calls -/

/-- Load the program a value stands for. -/
def loadProgram (m : Machine) (program : Host.Value) : Reply Unit :=
  match program.programBytes with
  | .error e => ⟨m, .error e, []⟩
  | .ok bytes =>
    match m.state.memory.loadProgram bytes with
    | .error e => ⟨m, .error e, []⟩
    | .ok memory =>
      let loaded := { m with state := { m.state with memory := memory } }
      let said := loaded.say .info ("Loaded program (" ++ toString bytes.length ++ " bytes)")
      let told := said.1.tell (.programLoaded bytes.length)
      ⟨told.1, .ok (), said.2 ++ told.2⟩

/-- Press the key a value names. -/
def keyDown (m : Machine) (key : Host.Value) : Reply Unit :=
  m.update (m.state.pressKey key)

/-- Release the key a value names. -/
def keyUp (m : Machine) (key : Host.Value) : Reply Unit :=
  m.update (m.state.releaseKey key)

/-- Whether the key a value names is down. -/
def isKeyDown (m : Machine) (key : Host.Value) : Reply Bool :=
  m.observe (m.state.isKeyDown key)

/-- The pixel at a pair of coordinates. -/
def pixelAt (m : Machine) (x y : Host.Value) : Reply Bool :=
  m.observe (m.state.display.hostPixel x y)

/-- The byte at an address. -/
def readByte (m : Machine) (address : Host.Value) : Reply UInt8 :=
  m.observe (m.state.memory.hostRead address)

/-- The machine waits for a key. -/
def awaitingKey (m : Machine) : Bool :=
  m.state.status = .waitingForKey

/-- The recorders among the observers, in order. -/
def recorders (m : Machine) : List Recorder :=
  m.observers.filterMap fun
    | .recorder r => some r
    | _ => none

/-- The recorder of a number; a negative number counts from the end. -/
def recorder (m : Machine) (i : Int) : Except Error Recorder :=
  let k := Cell.fromEnd m.recorders.length i
  match if k < 0 then none else m.recorders[k.toNat]? with
  | some r => .ok r
  | none => .error .noSuchRecorder

end Machine

end Chip8
