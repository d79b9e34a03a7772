import Chip8.Execution

/-!
The cycle of a machine: fetch a word, execute it, tick both timers.

`State.step` runs one cycle.  A fault undoes the fetch: the state is as before the cycle but for its
status, so that `pc` stays on the instruction, and from then on the machine is halted and `step`
returns it as it is (`step_of_halted`).  `State.run` runs cycles in a row and lists the statuses
they end with.
-/

namespace Chip8.State

/-- Read the word at `pc`, by the rules of total reads, and advance `pc` past it. -/
def fetch (s : State) : Word × State :=
  (Memory.joinBytes (s.memory.read s.pc.toNat) (s.memory.read (s.pc + 1).toNat),
    { s with pc := s.pc + 2 })

/-- The word at `pc`, if both its bytes lie in memory. -/
def currentWord? (s : State) : Option Word :=
  s.memory.readWord? s.pc.toNat

/-- One cycle of a machine that is not halted, or the fault that stops it. -/
def cycle (s : State) : Except Fault State :=
  match s.currentWord? with
  | none => .error .addressFault
  | some w =>
    match s.fetch.2.attempt (Instruction.ofWord w) with
    | .error f => .error f
    | .ok next => .ok next.tickTimers

/-- Run one cycle.  A machine that is halted stays as it is. -/
def step (s : State) : State :=
  if s.halted then
    s
  else
    match s.cycle with
    | .error f => s.withStatus f.status
    | .ok next => next

/-- Run cycles in a row: the last state, and the status after each cycle. -/
def run (s : State) : Nat → State × List Status
  | 0 => (s, [])
  | n + 1 =>
    let rest := s.step.run n
    (rest.1, s.step.status :: rest.2)

/-! ### Halted machines -/

theorem step_of_halted {s : State} (h : s.halted = true) : s.step = s := by
  simp [step, h]

/-- A fault leaves all but the status as it was. -/
theorem step_of_fault {s : State} {f : Fault} (h : s.halted = false) (hf : s.cycle = .error f) :
    s.step = s.withStatus f.status := by
  simp [step, h, hf]

/-- Runs compose. -/
theorem run_add (s : State) (m n : Nat) :
    s.run (m + n) = (((s.run m).1.run n).1, (s.run m).2 ++ ((s.run m).1.run n).2) := by
  induction m generalizing s with
  | zero => simp [run]
  | succ m ih =>
    rw [Nat.succ_add]
    simp only [run, ih, List.cons_append]

end Chip8.State
