import Chip8.Machine.Basic

/-!
Setting up a machine from what a host asks for.  The parts are made in a fixed order, so that it is
settled which of two bad requests is reported: first the observers, in their order, then a console
that the host describes, then the key of the random stream, then the console of a host that
describes none.
-/

namespace Chip8.Machine

/-- An observer a host asks for. -/
inductive ObserverRequest
  | listener
  | printer (settings : Console.Settings)
  | recorder (arguments : List Host.Value)

/-- The settings of a printer of which nothing else is asked. -/
def printerSettings : Console.Settings where
  name := .text "Trace"
  level := .text "DEBUG"

/-- A machine a host asks for. -/
structure Setup where
  /-- The seed of the random stream. -/
  seed : Host.Value := .int 0
  /-- The key of the random stream, in place of a seed. -/
  rng : Option Key := none
  observers : List ObserverRequest := []
  /-- The console. -/
  console : Option Console.Settings := none
  /-- The threshold of the console, if the console is not described. -/
  level : Host.Value := .text "INFO"
  strict : Host.Value := .bool false

/-- Consoles of a machine are no terminals, and their clock stands still. -/
def openConsole (settings : Console.Settings) : Except Error Console :=
  Console.ofSettings settings false (Clock.ofReadings [])

/-- The observer a host asks for. -/
def ObserverRequest.meet : ObserverRequest → Except Error Observer
  | listener => .ok .listener
  | printer settings => (openConsole settings).map .printer
  | recorder arguments => (Recorder.ofArguments arguments).map .recorder

/-- The machine a host asks for. -/
def ofSetup (setup : Setup) : Except Error Machine := do
  let observers ← setup.observers.mapM ObserverRequest.meet
  let described ← setup.console.mapM openConsole
  let rng ← match setup.rng with
    | some key => .ok key
    | none => setup.seed.seed
  let console ← match described with
    | some console => .ok console
    | none => openConsole { level := setup.level }
  .ok {
    state := State.initial rng
    console := console
    observers := observers
    strict := setup.strict.isTrue }

end Chip8.Machine
