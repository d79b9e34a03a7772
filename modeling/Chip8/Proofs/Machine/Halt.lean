import Chip8.Proofs.Machine.Call

/-!
Halted machines.  A fatal status is never taken back: no action of a host resets it, and a step on a
halted state is no step at all.  So a halted machine stays as it is but for the program area of its
memory and the keys (`State.Frozen`), through every list of calls.

It refuses every step and every run of at least one cycle, tells nobody, and names the fault that
halted it.  All other calls are answered as on a machine that runs: none of them looks at the status
(`call_withStatus`), so a halted machine and one with any other status in its place make the same of
them.

For runs of the state, `run_of_first_fatal` says that from the first fatal status on the statuses
stay the same, and the state is that before the cycle with its status replaced.

Main result: `halted_after`.  Two refusals are for another cause than the halt, and
`halted_refused_otherwise` shows them: a number of cycles too great to be counted, and a status
without a name, which only a host can have put there.
-/

namespace Chip8

/-! ### What stays of a halted state -/

namespace State

/-- All that a host cannot change on a halted state: everything but keys and program area. -/
structure Frozen (s t : State) : Prop where
  status : t.status = s.status
  pc : t.pc = s.pc
  index : t.index = s.index
  registers : t.registers = s.registers
  stack : t.stack = s.stack
  delayTimer : t.delayTimer = s.delayTimer
  soundTimer : t.soundTimer = s.soundTimer
  display : t.display = s.display
  rng : t.rng = s.rng
  memory : ∀ a < Memory.programStart, t.memory.read a = s.memory.read a

theorem Frozen.refl (s : State) : s.Frozen s :=
  ⟨rfl, rfl, rfl, rfl, rfl, rfl, rfl, rfl, rfl, fun _ _ => rfl⟩

theorem Frozen.trans {s t u : State} (h : s.Frozen t) (h' : t.Frozen u) : s.Frozen u where
  status := h'.status.trans h.status
  pc := h'.pc.trans h.pc
  index := h'.index.trans h.index
  registers := h'.registers.trans h.registers
  stack := h'.stack.trans h.stack
  delayTimer := h'.delayTimer.trans h.delayTimer
  soundTimer := h'.soundTimer.trans h.soundTimer
  display := h'.display.trans h.display
  rng := h'.rng.trans h.rng
  memory a ha := (h'.memory a ha).trans (h.memory a ha)

variable {s t : State}

theorem Frozen.halted (h : s.Frozen t) (hs : s.halted = true) : t.halted = true := by
  rw [State.halted, h.status]
  exact hs

/-- An action leaves a halted state frozen. -/
theorem frozen_act (hs : s.halted = true) (a : Action) : s.Frozen (s.act a) := by
  cases a with
  | step =>
    rw [act_step, step_of_halted hs]
    exact .refl s
  | load program =>
    obtain ⟨bytes, he⟩ := s.accept_loadProgram program
    rw [act, he]
    refine { Frozen.refl s with memory := fun a ha => ?_ }
    -- the program lies above
    have hlow : a < 0x200 := ha
    exact (Memory.read_writeAll _ _ _ _ (by omega)).trans (if_neg (Nat.not_le.mpr ha))
  | press key =>
    obtain ⟨keypad, he⟩ := s.accept_setKeyNamed key true
    rw [act, pressKey, he]
    exact { Frozen.refl s with }
  | release key =>
    obtain ⟨keypad, he⟩ := s.accept_setKeyNamed key false
    rw [act, releaseKey, he]
    exact { Frozen.refl s with }

/-- So do any number of actions. -/
theorem frozen_follow (hs : s.halted = true) (actions : List Action) :
    s.Frozen (s.follow actions) :=
  follow_induct (p := fun t => s.Frozen t)
    (fun _ a h => h.trans (frozen_act (h.halted hs) a)) (.refl s) actions

/-! ### Runs of a state past a fault -/

/-- A step that ends halted replaces the status and nothing else. -/
theorem step_eq_withStatus (hh : s.step.halted = true) : s.step = s.withStatus s.step.status := by
  cases s.step_view with
  | halted hs ht => rw [ht]; rfl
  | faulted f hs hf ht => rw [ht]; rfl
  | executed hs hf hp ht h => exact absurd (h.symm.trans hh) Bool.noConfusion

/-- From the first fatal status on, every status of a run is the same, and the state is the one
before the cycle that ended with it, with its status replaced. -/
theorem run_of_first_fatal {n k : Nat} (h : (s.run n).2.findIdx? Status.isFatal = some k) :
    ∃ st : Status, st.isFatal = true ∧
      (∀ j, k ≤ j → j < n → (s.run n).2[j]? = some st) ∧
      (s.run n).1 = (s.run k).1.withStatus st := by
  induction n generalizing s k with
  | zero => cases h
  | succ n ih =>
    rcases hh : s.step.halted with - | -
    · -- behind a cycle without a fault, the run goes on as the remaining cycles do
      rw [findIdx?_run_succ hh, Option.map_eq_some_iff] at h
      obtain ⟨k, hk, rfl⟩ := h
      obtain ⟨st, hst, hsame, hstate⟩ := ih hk
      refine ⟨st, hst, fun j hkj hj => ?_, hstate⟩
      obtain ⟨i, rfl⟩ : ∃ i, j = i + 1 := ⟨j - 1, by omega⟩
      rw [run, List.getElem?_cons_succ]
      exact hsame i (by omega) (by omega)
    · have hrun : s.run (n + 1) = (s.step, List.replicate (n + 1) s.step.status) := by
        rw [run, run_of_halted hh]
        rfl
      have hfatal : s.step.status.isFatal = true := hh
      rw [hrun, List.replicate_succ, List.findIdx?_cons, hfatal] at h
      obtain rfl : 0 = k := Option.some.inj h
      rw [hrun]
      exact ⟨s.step.status, hh, fun j _ hj => List.getElem?_replicate_of_lt hj,
        step_eq_withStatus hh⟩

end State

namespace Machine

/-! ### Calls that look at no status -/

/-- Whether a call runs cycles. -/
def Call.runs : Call → Bool
  | .act .step | .run _ _ => true
  | _ => false

/-- The machine with the status of its state replaced. -/
def withStatus (m : Machine) (st : Status) : Machine :=
  { m with state := m.state.withStatus st }

theorem loadProgram_withStatus (m : Machine) (st : Status) (program : Host.Value) :
    (m.withStatus st).loadProgram program =
      ⟨(m.loadProgram program).machine.withStatus st, (m.loadProgram program).outcome,
        (m.loadProgram program).events⟩ := by
  have hmemory : (m.withStatus st).state.memory = m.state.memory := rfl
  rw [loadProgram, loadProgram, hmemory]
  rcases program.programBytes with e | bytes
  · rfl
  · rcases hm : m.state.memory.loadProgram bytes with e | memory
    · simp only [hm]
    · simp only [hm]
      rfl

/-- A call that runs no cycle is answered whatever the status is, and leaves it alone. -/
theorem call_withStatus (m : Machine) (st : Status) {c : Call} (hc : c.runs = false) :
    (m.withStatus st).call c =
      ⟨(m.call c).machine.withStatus st, (m.call c).outcome, (m.call c).events⟩ := by
  cases c with
  | act a =>
    cases a with
    | step => cases hc
    | load program =>
      rw [call, act, loadProgram_withStatus]
      rfl
    | press key | release key =>
      -- a key is named or not, whatever the status is
      rcases hk : key.key with e | k <;>
        simp [call, act, keyDown, keyUp, update, withStatus, State.pressKey, State.releaseKey,
          State.setKeyNamed, hk, Reply.map, Except.map, State.withStatus, State.setKey]
  | run cycles description => cases hc
  | isKeyDown key | pixelAt x y | readByte address => rfl

/-! ### Calls on a halted machine -/

variable {m : Machine}

theorem run_refused (hs : m.state.halted = true) {cycles : Host.Value} {k : Nat}
    (hk : cycles.count = .ok (k + 1)) (description : Option String) :
    m.run cycles description = ⟨m, .error (haltedError m.state.status), []⟩ := by
  have hout : m.step.outcome = .error (haltedError m.state.status) := by rw [step_of_halted hs]
  rw [run, Host.Value.runLength_eq_count hk]
  show m.runFrom .ok (k + 1) = _
  rw [runFrom_succ_of_error hout, step_of_halted hs]

theorem frozen_after (hs : m.state.halted = true) (calls : List Call) :
    m.state.Frozen (m.after calls).state := by
  obtain ⟨actions, he⟩ := m.after_follow calls
  rw [he]
  exact State.frozen_follow hs actions

/-- How a machine that a status has halted answers. -/
structure Inert (m : Machine) (st : Status) : Prop where
  /-- A step is refused, changes nothing and is told to nobody. -/
  step : m.step = ⟨m, .error (haltedError st), []⟩
  /-- So is a run of one cycle or more. -/
  run (cycles : Host.Value) (k : Nat) : cycles.count = .ok (k + 1) →
    ∀ description, m.run cycles description = ⟨m, .error (haltedError st), []⟩
  /-- Other calls are answered as they would be if the status were another one. -/
  others (other : Status) (c : Call) : c.runs = false → (m.withStatus other).call c =
    ⟨(m.call c).machine.withStatus other, (m.call c).outcome, (m.call c).events⟩

theorem inert_of_halted (hs : m.state.halted = true) : m.Inert m.state.status where
  step := step_of_halted hs
  run _ _ := run_refused hs
  others other _ := m.call_withStatus other

/-! ### Halting is permanent -/

/-- **Halting is permanent.**  After any calls, a machine that was halted is as it was, but for keys
and program area; it refuses steps and runs by the status that halted it, and answers other calls as
a machine that runs.  A fault is named in the refusal, and faults are all that halts a machine that
a host can come to.  A run of a state stays with its first fatal status, and with the state before
the cycle that ended with it. -/
theorem halted_after (m : Machine) (hs : m.state.halted = true) :
    (∀ calls : List Call,
      m.state.Frozen (m.after calls).state ∧ (m.after calls).state.halted = true ∧
        (m.after calls).Inert m.state.status) ∧
      (∀ f : Fault, m.state.status = f.status → ∃ name, m.state.status.name? = some name ∧
        haltedError m.state.status = .machineHalted ("Machine halted after " ++ name)) ∧
      (m.Reachable → ∃ f : Fault, m.state.status = f.status) ∧
      ∀ (s : State) (n k : Nat), (s.run n).2.findIdx? Status.isFatal = some k →
        ∃ st : Status, st.isFatal = true ∧
          (∀ j, k ≤ j → j < n → (s.run n).2[j]? = some st) ∧
          (s.run n).1 = (s.run k).1.withStatus st := by
  refine ⟨fun calls => ?_, fun f hf => ?_, fun h => ?_, fun s n k => State.run_of_first_fatal⟩
  · have hfrozen := frozen_after hs calls
    have hhalted := hfrozen.halted hs
    refine ⟨hfrozen, hhalted, ?_⟩
    rw [← hfrozen.status]
    exact inert_of_halted hhalted
  · rw [hf]
    exact haltedError_status f
  · obtain ⟨rng, hreach⟩ := h.state
    exact hreach.wellFormed.fault_of_halted hs

/-- A machine that was halted by a return with no call pending. -/
def underflown : Machine :=
  stepped [0x00, 0xEE]

theorem status_underflown : underflown.state.status = Fault.stackUnderflow.status := by
  have hload := State.loaded_eq [0x00, 0xEE] (by decide)
  have hs : (State.loaded [0x00, 0xEE]).halted = false := by
    rw [hload]
    rfl
  have hw : (State.loaded [0x00, 0xEE]).word = 0x00EE := by
    rw [hload, State.word_writeAll (i := 0) rfl rfl (by decide) (by decide)]
    decide
  have hp : (State.loaded [0x00, 0xEE]).pc.toNat ≤ 0xFFE := by
    rw [hload]
    decide
  have hpointer : (State.loaded [0x00, 0xEE]).stack.pointer ≤ 0 := by
    rw [hload]
    decide
  have hc := (State.cycle_eq_error_iff _ .stackUnderflow).mpr (.execute hp (.ret hw hpointer))
  rw [underflown, state_stepped]
  exact congrArg State.status (State.step_of_fault hs hc)

/-- With a program loaded and a key pressed, it still names the return. -/
theorem halted_after_underflown :
    underflown.state.halted = true ∧
      (let n := underflown.after
        [.act (.load (.buffer .fixed [0x60, 0x01])), .act (.press (.int 5))]
      n.state.status = Fault.stackUnderflow.status ∧
        n.step.outcome = .error (.machineHalted "Machine halted after stack_underflow") ∧
        (n.run (.int 10)).events = []) := by
  have hs : underflown.state.halted = true := by
    rw [State.halted, status_underflown]
    rfl
  obtain ⟨hcalls, -⟩ := halted_after underflown hs
  obtain ⟨hfrozen, -, hinert⟩ := hcalls
    [.act (.load (.buffer .fixed [0x60, 0x01])), .act (.press (.int 5))]
  rw [status_underflown] at hinert
  refine ⟨hs, hfrozen.status.trans status_underflown, ?_, ?_⟩
  · rw [hinert.step]
    rfl
  · rw [hinert.run (.int 10) 9 rfl none]

/-- Halted machines that refuse for another cause than the halt: the number of cycles is too great,
or the status has no name. -/
theorem halted_refused_otherwise :
    underflown.Reachable ∧ underflown.state.halted = true ∧
      (∃ e, (underflown.run (.int 9223372036854775808)).outcome = .error e ∧
        ∀ text, e ≠ .machineHalted text) ∧
      (put ⟨7⟩).state.halted = true ∧
      ∃ e, (put ⟨7⟩).step.outcome = .error e ∧ ∀ text, e ≠ .machineHalted text := by
  have hs : underflown.state.halted = true := by
    rw [State.halted, status_underflown]
    rfl
  have hput : (put ⟨7⟩).state.halted = true := by decide
  have hrun : underflown.run (.int 9223372036854775808) = ⟨underflown, .error .overflow, []⟩ := by
    show underflown.run (.int (9223372036854775808 : Nat)) = _
    rw [run_of_maxCount_lt _ (by decide) (by decide +kernel)]
  refine ⟨reachable_stepped _, hs, ⟨.overflow, ?_, fun _ h => by cases h⟩, hput,
    ⟨.unnamedStatus 7, ?_, fun _ h => by cases h⟩⟩
  · rw [hrun]
  · rw [step_of_halted hput]
    rfl

end Machine

end Chip8
