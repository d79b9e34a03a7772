import Chip8.Proofs.Cycle.Reads
import Chip8.Proofs.Machine.Call

/-!
Errors of a step.  On a machine that a host can come to, a step is refused for one of three causes,
and each of them for one reason only: the machine was halted before, the cycle ended with a fault,
or the machine is strict and the word is unknown.  `Machine.Contract` states which error arises
when, what is in it, and what console and observers get to hear before it is raised.

* Such a machine was halted by a fault, so it can say by what (`Reachable.haltedError_eq`).  A
  machine that a host has put into another status cannot.
* The error of a fault is made up after the step.  It is that of the state before
  (`faultError_eq`), and an address fault that is blamed on an access is one of an access that
  leaves memory (`leaves_of_stops`).
* A word that has been executed can be read, so no record lacks one (`instructionAt_step`).

Main result: `step_contract`.
-/

namespace Chip8

/-- Distinct faults are reported by errors of distinct names. -/
theorem Fault.errorName_injective : Function.Injective Fault.errorName := by
  intro f g h
  cases f <;> cases g <;> first | rfl | exact absurd h (by decide)

namespace State

variable {s : State}

/-! ### Accesses out of memory -/

/-- The access that is blamed for an address fault leaves memory: the two bytes from `pc` on, or as
many bytes from `I` on as the word reaches. -/
def Leaves (s : State) : Prop :=
  if s.pc.toNat ≤ 0xFFE then
    0 < s.word.reach ∧ 4096 < s.index.toNat + s.word.reach
  else 4096 < s.pc.toNat + 2

theorem leaves_of_stops (h : s.Stops .addressFault) : s.Leaves := by
  cases h with
  | fetch hp =>
    rw [Leaves, if_neg (by omega)]
    omega
  | execute hp hr =>
    have hf := fault?_of_refuses hr
    have hret : Instruction.ofWord s.word ≠ .ret := fun hi => by
      rw [hi, fault?_ret] at hf
      cases hf.1
    have hcall (t : Address) : Instruction.ofWord s.word ≠ .call t := fun hi => by
      rw [hi, fault?_call] at hf
      cases hf.1
    obtain ⟨hl, ⟨-, hout⟩ | ⟨hkind, -⟩⟩ := (s.fault?_access hret hcall .addressFault).mp hf
    · rw [Instruction.access_length_ofWord] at hl hout
      rw [Leaves, if_pos hp]
      exact ⟨hl, hout⟩
    · cases hkind

end State

namespace Machine

variable {m : Machine}

/-! ### The contract -/

/-- Which errors a step is refused with, when, and what is told before. -/
structure Contract (m : Machine) : Prop where
  /-- A machine that was halted before refuses, and no other does so for this cause. -/
  halted : (∃ text, m.step.outcome = .error (.machineHalted text)) ↔ m.state.halted = true
  /-- Otherwise every fault has its error exactly if the cycle ends with its status. -/
  fault (f : Fault) : (∃ e, m.step.outcome = .error e ∧ e.name? = some f.errorName) ↔
    m.state.halted = false ∧ m.state.step.status = f.status
  /-- The error says where the fault is, by the state before the step. -/
  faultError (f : Fault) : m.state.halted = false → m.state.step.status = f.status →
    m.step.outcome = .error (f.error m.state)
  /-- The address that is blamed is one of an access out of memory. -/
  leaves : m.state.halted = false → m.state.step.status = Fault.addressFault.status →
    m.state.Leaves
  /-- A strict machine refuses an unknown word. -/
  unimplemented (pc w : Int) : m.step.outcome = .error (.unimplementedOpcode pc w) ↔
    m.strict = true ∧ m.state.step.status = .unimplementedOpcode ∧
      pc = m.state.pc.toNat ∧ w = m.state.word.toNat
  /-- There are no other errors. -/
  nothingElse (e : Error) : m.step.outcome = .error e →
    (∃ text, e = .machineHalted text) ∨ (∃ f : Fault, e = f.error m.state) ∨
      e = .unimplementedOpcode m.state.pc.toNat m.state.word.toNat
  /-- In particular there is none for want of the name of a status, or of the fault of one. -/
  named (code : Nat) (fatal : Int) : m.step.outcome ≠ .error (.unnamedStatus code) ∧
    m.step.outcome ≠ .error (.unknownFault fatal)
  /-- What is not refused is answered by the status of the cycle, one of three. -/
  ok (st : Status) : m.step.outcome = .ok st →
    st = m.state.step.status ∧ st ∈ [.ok, .waitingForKey, .unimplementedOpcode]
  /-- A word that has been executed can be read for its record. -/
  word : m.state.step.halted = false → m.step.machine.instructionAt m.state.pc.toNat =
    some (m.step.machine.state.memory.readWord m.state.pc.toNat)
  toldHalted : m.state.halted = true → m.step.machine = m ∧ m.step.events = []
  toldFault (f : Fault) : m.state.halted = false → m.state.step.status = f.status →
    m.TellsFault (f.error m.state)
  toldInstruction : m.state.step.halted = false → m.TellsInstruction m.record

/-! ### Outcomes -/

/-- What the outcome of a step can be, and when. -/
theorem step_outcome_view (m : Machine) : m.state.OutcomeView m.strict m.step.outcome := by
  rw [step_eq]
  exact m.state.outcome_view m.strict

theorem step_outcome_of_fault {f : Fault} (hs : m.state.halted = false)
    (h : m.state.step.status = f.status) : m.step.outcome = .error (f.error m.state) := by
  rw [step_eq]
  exact State.outcome_of_stops hs (State.stops_of_status hs h)

/-- A step is refused as one on a halted machine exactly if the machine was halted. -/
theorem Reachable.machineHalted_iff (h : m.Reachable) :
    (∃ text, m.step.outcome = .error (.machineHalted text)) ↔ m.state.halted = true := by
  constructor
  · rintro ⟨text, he⟩
    cases m.step_outcome_view with
    | halted hs ho => exact hs
    | faulted f hs hst ho =>
      rw [he] at ho
      cases f <;> cases ho
    | refused hst hstrict ho | executed hh ho =>
      rw [he] at ho
      cases ho
  · intro hs
    obtain ⟨text, he⟩ := h.haltedError_eq hs
    refine ⟨text, ?_⟩
    rw [step_of_halted hs, he]

/-- A step is refused by the error of a fault exactly if the cycle ended with the fault. -/
theorem Reachable.faultError_iff (h : m.Reachable) (f : Fault) :
    (∃ e, m.step.outcome = .error e ∧ e.name? = some f.errorName) ↔
      m.state.halted = false ∧ m.state.step.status = f.status := by
  constructor
  · rintro ⟨e, he, hname⟩
    cases m.step_outcome_view with
    | halted hs ho =>
      obtain ⟨text, htext⟩ := h.haltedError_eq hs
      rw [he, htext] at ho
      cases ho
      cases f <;> exact absurd (Option.some.inj hname) (by decide)
    | faulted g hs hst ho =>
      rw [he] at ho
      rw [Except.error.inj ho, Fault.name?_error] at hname
      exact ⟨hs, Fault.errorName_injective (Option.some.inj hname) ▸ hst⟩
    | refused hst hstrict ho =>
      rw [he] at ho
      cases ho
      cases f <;> exact absurd (Option.some.inj hname) (by decide)
    | executed hh ho =>
      rw [he] at ho
      cases ho
  · rintro ⟨hs, hst⟩
    exact ⟨_, step_outcome_of_fault hs hst, f.name?_error m.state⟩

/-- A step is refused for its word exactly if the machine is strict and the word is unknown. -/
theorem unimplementedOpcode_iff (m : Machine) (pc w : Int) :
    m.step.outcome = .error (.unimplementedOpcode pc w) ↔
      m.strict = true ∧ m.state.step.status = .unimplementedOpcode ∧
        pc = m.state.pc.toNat ∧ w = m.state.word.toNat := by
  constructor
  · intro he
    cases m.step_outcome_view with
    | halted hs ho =>
      rw [he, haltedError] at ho
      split at ho <;> cases ho
    | faulted f hs hst ho =>
      rw [he] at ho
      cases f <;> cases ho
    | refused hst hstrict ho =>
      rw [he] at ho
      cases ho
      exact ⟨hstrict, hst, rfl, rfl⟩
    | executed hh ho =>
      rw [he] at ho
      cases ho
  · rintro ⟨hstrict, hst, rfl, rfl⟩
    obtain ⟨-, hh, -⟩ := State.unknown_of_status hst
    rw [step_eq]
    show m.state.outcome m.strict = _
    rw [State.outcome_of_executed hh, if_pos ⟨hst, hstrict⟩]

/-- The errors of a step. -/
theorem Reachable.error_of_outcome (h : m.Reachable) {e : Error} (he : m.step.outcome = .error e) :
    (∃ text, e = .machineHalted text) ∨ (∃ f : Fault, e = f.error m.state) ∨
      e = .unimplementedOpcode m.state.pc.toNat m.state.word.toNat := by
  cases m.step_outcome_view with
  | halted hs ho =>
    obtain ⟨text, htext⟩ := h.haltedError_eq hs
    rw [he, htext] at ho
    exact .inl ⟨text, Except.error.inj ho⟩
  | faulted f hs hst ho =>
    rw [he] at ho
    exact .inr (.inl ⟨f, Except.error.inj ho⟩)
  | refused hst hstrict ho =>
    rw [he] at ho
    exact .inr (.inr (Except.error.inj ho))
  | executed hh ho =>
    rw [he] at ho
    cases ho

/-- A step that is not refused is answered by the status of its cycle. -/
theorem status_of_step_outcome {st : Status} (ho : m.step.outcome = .ok st) :
    st = m.state.step.status ∧ st ∈ [.ok, .waitingForKey, .unimplementedOpcode] := by
  rw [step_eq] at ho
  obtain ⟨hh, rfl⟩ := State.status_of_outcome ho
  refine ⟨rfl, ?_⟩
  rw [(State.step_executed (State.halted_of_step hh) hh).2]
  exact m.state.status_begun_perform_mem

/-- Errors for want of a name, or of a fault, do not arise: they are none of a machine. -/
theorem Reachable.named (h : m.Reachable) (code : Nat) (fatal : Int) :
    m.step.outcome ≠ .error (.unnamedStatus code) ∧
      m.step.outcome ≠ .error (.unknownFault fatal) := by
  have hname {e : Error} (he : m.step.outcome = .error e) : e.name?.isSome = true := by
    rcases h.error_of_outcome he with ⟨text, rfl⟩ | ⟨f, rfl⟩ | rfl
    · rfl
    · rw [Fault.name?_error]
      rfl
    · rfl
  exact ⟨fun he => Bool.noConfusion (hname he), fun he => Bool.noConfusion (hname he)⟩

/-- The word that a step has executed lies in memory. -/
theorem instructionAt_step (h : m.state.step.halted = false) :
    m.step.machine.instructionAt m.state.pc.toNat =
      some (m.step.machine.state.memory.readWord m.state.pc.toNat) :=
  m.step.machine.instructionAt_of_le (State.step_executed (State.halted_of_step h) h).1

/-! ### All errors of a step -/

/-- **Errors of a step.**  On every machine that a host can come to, a step keeps the contract: it
is refused for one of three causes, each with its own error, and before a fault is raised it is
written on the console once and handed to every observer once, in their order. -/
theorem step_contract (m : Machine) (h : m.Reachable) : m.Contract where
  halted := h.machineHalted_iff
  fault := h.faultError_iff
  faultError f := step_outcome_of_fault
  leaves hs hst := State.leaves_of_stops (State.stops_of_status hs hst)
  unimplemented := m.unimplementedOpcode_iff
  nothingElse e := h.error_of_outcome
  named := h.named
  ok _ := status_of_step_outcome
  word := instructionAt_step
  toldHalted hs := by
    rw [step_of_halted hs]
    exact ⟨rfl, rfl⟩
  toldFault f := tellsFault
  toldInstruction := tellsInstruction

/-- A machine that has jumped to `0xFFF`, where no whole word can be fetched. -/
def farFetch : Machine :=
  stepped [0x1F, 0xFF]

/-- The fetch is refused by its own address, without a word, after everyone was told. -/
theorem step_contract_farFetch :
    farFetch.Reachable ∧
      (let e := Error.addressOutOfRange (some 0xFFF) (some 0xFFF) none
      farFetch.step.outcome = .error e ∧ farFetch.TellsFault e) := by
  have hreach : farFetch.Reachable := reachable_stepped _
  have hstate : farFetch.state = (State.loaded [0x1F, 0xFF]).step := state_stepped _
  obtain ⟨heq, hs⟩ : (State.loaded [0x1F, 0xFF]).step =
      ((State.loaded [0x1F, 0xFF]).begun.perform (.jump 0xFFF)).tickTimers ∧
      (State.loaded [0x1F, 0xFF]).step.halted = false :=
    State.step_loaded (by decide) (by decide) (by decide) (by decide)
  have hp : farFetch.state.pc = 0xFFF := by
    rw [hstate, heq]
    rfl
  have hfar : ¬(0xFFF : UInt16).toNat ≤ 0xFFE := by decide
  have hs' : farFetch.state.halted = false := by rw [hstate, hs]
  have hst : farFetch.state.step.status = Fault.addressFault.status := by
    have hc : farFetch.state.cycle = .error .addressFault :=
      (State.cycle_eq_error_iff _ _).mpr (.fetch (by rw [hp]; decide))
    exact congrArg State.status (State.step_of_fault hs' hc)
  have he : Fault.addressFault.error farFetch.state =
      .addressOutOfRange (some 0xFFF) (some 0xFFF) none := by
    rw [Fault.error, State.blamed, State.instruction?, hp, if_neg hfar, if_neg hfar]
    rfl
  have hcontract := step_contract farFetch hreach
  have hout := hcontract.faultError .addressFault hs' hst
  have htold := hcontract.toldFault .addressFault hs' hst
  rw [he] at hout htold
  exact ⟨hreach, hout, htold⟩

end Machine

end Chip8
