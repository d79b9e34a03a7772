import Chip8.Machine.Setup
import Chip8.Proofs.Machine.Report
import Chip8.Proofs.Machine.Run
import Chip8.Proofs.Run.WellFormed

/-!
Calls of a host.  `Machine.Call` lists what a host can ask of a machine once it is set up: the four
actions on its state, runs, and reads.  `Machine.call` answers a call and `Machine.after` is the
machine after a list of calls, refused or not.  What else a host can look at is a function of the
state.

* A machine that answers an action takes the same action on its state (`act_state`), and the outcome
  depends on the state and on whether the machine is strict, and on nothing else (`act_outcome`).
* Every call leaves a state that the state before reaches by actions (`call_follow`): a run is some
  number of steps, and a read is none.
* So the state of a machine that a host can come to is one of a run from an initial state
  (`Reachable.state`), and all that is known of those states holds of it.
-/

namespace Chip8

/-! ### Calls and answers -/

/-- A reply with its outcome rewritten. -/
def Reply.map {α β : Type} (f : α → β) (r : Reply α) : Reply β :=
  ⟨r.machine, r.outcome.map f, r.events⟩

namespace Machine

/-- What a host asks of a machine. -/
inductive Call
  /-- Act on the state. -/
  | act (a : State.Action)
  /-- Run as many cycles as a value says. -/
  | run (cycles : Host.Value) (description : Option String := none)
  /-- Read the level of a key. -/
  | isKeyDown (key : Host.Value)
  /-- Read a pixel. -/
  | pixelAt (x y : Host.Value)
  /-- Read a byte of memory. -/
  | readByte (address : Host.Value)

/-- What a machine answers. -/
inductive Answer
  | done
  | status (st : Status)
  | truth (b : Bool)
  | byte (b : UInt8)

/-- The reply to an action. -/
def act (m : Machine) : State.Action → Reply Answer
  | .step => m.step.map .status
  | .load program => (m.loadProgram program).map fun _ => .done
  | .press key => (m.keyDown key).map fun _ => .done
  | .release key => (m.keyUp key).map fun _ => .done

/-- The reply to a call. -/
def call (m : Machine) : Call → Reply Answer
  | .act a => m.act a
  | .run cycles description => (m.run cycles description).map .status
  | .isKeyDown key => (m.isKeyDown key).map .truth
  | .pixelAt x y => (m.pixelAt x y).map .truth
  | .readByte address => (m.readByte address).map .byte

/-- The machine after a list of calls, the first one first.  A refused call does not end it. -/
def after (m : Machine) (calls : List Call) : Machine :=
  calls.foldl (fun m c => (m.call c).machine) m

end Machine

/-! ### Actions -/

/-- The outcome of an action, by the state and whether the machine is strict. -/
def State.answer (s : State) (strict : Bool) : Action → Except Error Machine.Answer
  | .step => (s.outcome strict).map .status
  | .load program => (s.loadProgram program).map fun _ => .done
  | .press key => (s.pressKey key).map fun _ => .done
  | .release key => (s.releaseKey key).map fun _ => .done

namespace Machine

/-- A program is loaded into the machine if the state takes it. -/
theorem loadProgram_eq (m : Machine) (program : Host.Value) :
    (m.loadProgram program).machine.state = m.state.accept (m.state.loadProgram program) ∧
      (m.loadProgram program).machine.strict = m.strict ∧
      (m.loadProgram program).outcome = (m.state.loadProgram program).map fun _ => () := by
  rw [loadProgram, State.loadProgram]
  rcases program.programBytes with e | bytes
  · exact ⟨rfl, rfl, rfl⟩
  · simp only [bind, Except.bind]
    rcases m.state.memory.loadProgram bytes with e | memory
    · exact ⟨rfl, rfl, rfl⟩
    · exact ⟨rfl, rfl, rfl⟩

/-- An answer to a call that changes the state or is refused. -/
theorem update_eq (m : Machine) (next : Except Error State) :
    m.update next = ⟨{ m with state := m.state.accept next }, next.map fun _ => (), []⟩ := by
  cases next <;> rfl

/-- The state of a machine takes the actions the machine takes. -/
theorem act_state (m : Machine) (a : State.Action) :
    (m.act a).machine.state = m.state.act a ∧ (m.act a).machine.strict = m.strict := by
  cases a with
  | step => exact m.step_machine
  | load program =>
    obtain ⟨hstate, hstrict, -⟩ := m.loadProgram_eq program
    exact ⟨hstate, hstrict⟩
  | press key | release key =>
    rw [act]
    first | rw [keyDown, update_eq] | rw [keyUp, update_eq]
    exact ⟨rfl, rfl⟩

/-- The outcome of an action does not depend on who listens. -/
theorem act_outcome (m : Machine) (a : State.Action) :
    (m.act a).outcome = m.state.answer m.strict a := by
  cases a with
  | step =>
    rw [act, step_eq]
    rfl
  | load program =>
    obtain ⟨-, -, hout⟩ := m.loadProgram_eq program
    rw [act, Reply.map, hout, State.answer]
    cases m.state.loadProgram program <;> rfl
  | press key =>
    rw [act, keyDown, update_eq, State.answer]
    cases m.state.pressKey key <;> rfl
  | release key =>
    rw [act, keyUp, update_eq, State.answer]
    cases m.state.releaseKey key <;> rfl

/-- Actions in a row, refused or not. -/
theorem after_act (m : Machine) (actions : List State.Action) :
    (m.after (actions.map .act)).state = m.state.follow actions ∧
      (m.after (actions.map .act)).strict = m.strict := by
  induction actions generalizing m with
  | nil => exact ⟨rfl, rfl⟩
  | cons a rest ih =>
    obtain ⟨hstate, hstrict⟩ := m.act_state a
    obtain ⟨hrest, hkept⟩ := ih (m.act a).machine
    rw [hstate] at hrest
    exact ⟨hrest, hkept.trans hstrict⟩

/-! ### All calls -/

/-- A run, refused or not, is a number of steps. -/
theorem runFrom_follow (m : Machine) (last : Status) (n : Nat) :
    ∃ k, (m.runFrom last n).machine.state = m.state.follow (List.replicate k .step) := by
  induction n generalizing m last with
  | zero => exact ⟨0, rfl⟩
  | succ n ih =>
    rcases h : m.step.outcome with e | st
    · refine ⟨1, ?_⟩
      rw [runFrom_succ_of_error h, step_state]
      rfl
    · obtain ⟨k, hk⟩ := ih m.step.machine st
      refine ⟨k + 1, ?_⟩
      rw [runFrom_succ_of_ok h, hk, step_state]
      rfl

/-- Whatever a call does to the state, actions can do. -/
theorem call_follow (m : Machine) (c : Call) :
    ∃ actions, (m.call c).machine.state = m.state.follow actions := by
  cases c with
  | act a => exact ⟨[a], (m.act_state a).1⟩
  | run cycles description =>
    rw [call, run]
    rcases cycles.runLength description with e | n
    · exact ⟨[], rfl⟩
    · obtain ⟨k, hk⟩ := m.runFrom_follow .ok n
      exact ⟨_, hk⟩
  | isKeyDown key | pixelAt x y | readByte address => exact ⟨[], rfl⟩

theorem after_follow (m : Machine) (calls : List Call) :
    ∃ actions, (m.after calls).state = m.state.follow actions := by
  induction calls generalizing m with
  | nil => exact ⟨[], rfl⟩
  | cons c rest ih =>
    obtain ⟨first, hfirst⟩ := m.call_follow c
    obtain ⟨others, hothers⟩ := ih (m.call c).machine
    refine ⟨first ++ others, ?_⟩
    rw [State.follow_append, ← hfirst]
    exact hothers

/-! ### Machines that a host can come to -/

/-- The key of the random stream a host asks for. -/
def Setup.key (setup : Setup) : Except Error Key :=
  match setup.rng with
  | some key => .ok key
  | none => setup.seed.seed

/-- The parts of a machine, in the order in which they are made. -/
theorem ofSetup_eq (setup : Setup) :
    ofSetup setup = (do
      let observers ← setup.observers.mapM ObserverRequest.meet
      let described ← setup.console.mapM openConsole
      let key ← setup.key
      let console ← described.elim (openConsole { level := setup.level }) .ok
      .ok ⟨State.initial key, console, observers, setup.strict.isTrue⟩) := by
  have hkey : setup.key = match setup.rng with
    | some key => .ok key
    | none => setup.seed.seed := rfl
  rw [ofSetup, hkey]
  refine congrArg (bind _) (funext fun observers => congrArg (bind _) (funext fun described => ?_))
  cases setup.rng <;> cases described <;> rfl

/-- What a sequence of two parts makes, the second part makes of what the first one made. -/
theorem exists_of_bind_eq_ok {α β : Type} {x : Except Error α} {f : α → Except Error β} {b : β}
    (h : x >>= f = .ok b) : ∃ a, x = .ok a ∧ f a = .ok b := by
  rcases x with e | a
  · cases h
  · exact ⟨a, rfl, h⟩

/-- A machine is set up in the initial state of the key asked for, and strict if that is asked. -/
theorem ofSetup_eq_ok {setup : Setup} {m : Machine} (h : ofSetup setup = .ok m) :
    (∃ key, setup.key = .ok key ∧ m.state = State.initial key) ∧
      m.strict = setup.strict.isTrue := by
  rw [ofSetup_eq] at h
  obtain ⟨observers, -, h⟩ := exists_of_bind_eq_ok h
  obtain ⟨described, -, h⟩ := exists_of_bind_eq_ok h
  obtain ⟨key, hkey, h⟩ := exists_of_bind_eq_ok h
  obtain ⟨console, -, h⟩ := exists_of_bind_eq_ok h
  rw [← Except.ok.inj h]
  exact ⟨⟨key, hkey, rfl⟩, rfl⟩

/-- The machines that a host can come to from a setup by calls. -/
def Reachable (m : Machine) : Prop :=
  ∃ setup m₀ calls, ofSetup setup = .ok m₀ ∧ m = m₀.after calls

/-- The state of such a machine is one that a run comes to. -/
theorem Reachable.state {m : Machine} (h : m.Reachable) : ∃ rng, State.Reachable rng m.state := by
  obtain ⟨setup, m₀, calls, hsetup, rfl⟩ := h
  obtain ⟨⟨key, -, hinitial⟩, -⟩ := ofSetup_eq_ok hsetup
  obtain ⟨actions, hstate⟩ := m₀.after_follow calls
  refine ⟨key, (State.reachable_iff key _).mpr ⟨actions, ?_⟩⟩
  rw [hstate, hinitial]

/-- A machine with one listener that has loaded a program and answered one step. -/
def stepped (program : List UInt8) : Machine :=
  (watched (State.initial ⟨0, 0⟩)).after ([.load (.buffer .fixed program), .step].map .act)

theorem reachable_stepped (program : List UInt8) : (stepped program).Reachable := by
  have hsetup : ofSetup { observers := [.listener] } = .ok (watched (State.initial ⟨0, 0⟩)) := rfl
  exact ⟨_, _, _, hsetup, rfl⟩

theorem state_stepped (program : List UInt8) :
    (stepped program).state = (State.loaded program).step := by
  rw [stepped, (after_act _ _).1, State.follow, List.foldl_cons, List.foldl_cons, List.foldl_nil,
    State.act_step, State.loaded]
  rfl

/-! ### Halted machines -/

/-- A machine that was halted by a fault says by which. -/
theorem haltedError_status (f : Fault) :
    ∃ name, f.status.name? = some name ∧
      haltedError f.status = .machineHalted ("Machine halted after " ++ name) := by
  cases f <;> exact ⟨_, rfl, rfl⟩

theorem Reachable.haltedError_eq {m : Machine} (h : m.Reachable) (hs : m.state.halted = true) :
    ∃ text, haltedError m.state.status = .machineHalted text := by
  obtain ⟨rng, hreach⟩ := h.state
  obtain ⟨f, hf⟩ := hreach.wellFormed.fault_of_halted hs
  obtain ⟨name, -, he⟩ := haltedError_status f
  rw [hf]
  exact ⟨_, he⟩

end Machine

end Chip8
