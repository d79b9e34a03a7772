import Chip8.Cycle
import Chip8.Error.Arguments
import Chip8.Host.Access
import Chip8.Machine.Setup
import Chip8.Proofs.Recognition
import Chip8.Proofs.Execution.Fault
import Chip8.Proofs.Cycle.Outcome
import Chip8.Proofs.Cycle.Footprint
import Chip8.Proofs.Cycle.Reads
import Chip8.Proofs.Machine.Trace
import Chip8.Proofs.CallStack
import Chip8.Proofs.Cycle.Transfer
import Chip8.Proofs.Run.Action
import Chip8.Proofs.Run.WellFormed
import Chip8.Proofs.Run.Calls
import Chip8.Proofs.Run.Font
import Chip8.Proofs.Machine.Run
import Chip8.Proofs.Machine.Observers
import Chip8.Proofs.Machine.Errors
import Chip8.Proofs.Machine.Halt
import Chip8.Proofs.Cycle.Lanes
import Chip8.Proofs.Run.Random
import Chip8.Proofs.Machine.Recorder
import Chip8.Proofs.Execution.Dispatch
import Chip8.Proofs.Machine.Load
import Chip8.Proofs.Run.Timers
import Chip8.Proofs.Machine.Keypad
import Chip8.Proofs.Execution.Draw
import Chip8.Proofs.Run.RoundTrip
import Chip8.Proofs.Execution.Arithmetic
import Chip8.Proofs.Execution.Block
import Chip8.Proofs.Execution.Stroke
import Chip8.Proofs.Machine.KeyWait
import Chip8.Proofs.Cycle.Successor
import Chip8.Proofs.Text.Numeral
import Chip8.Proofs.TraceLine
import Chip8.Proofs.Text.UpperCase
import Chip8.Proofs.Console
import Chip8.Proofs.Display
import Chip8.Proofs.Host.Pixel
