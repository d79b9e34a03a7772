import Chip8.Machine.Basic
import Chip8.Proofs.Cycle.Outcome

/-!
Steps of a machine.  `Machine.step` runs one cycle of the state, tells the console and the observers
about it, and turns the status into an outcome.  Telling leaves the state alone, so the state of the
machine takes exactly the step of the state (`step_state`).

`Machine.step_view` has the three cases of `State.step_view` and says for each of them what the
outcome is:

* a halted machine refuses the step;
* a fault is refused with the error of its status, whose name `Fault.errorName` is;
* otherwise the outcome is the status, unless the machine is strict and the word is unknown.
-/

namespace Chip8

/-- The name of the error that a fault is reported by. -/
def Fault.errorName : Fault → String
  | stackUnderflow => "StackUnderflow"
  | stackOverflow => "StackOverflow"
  | addressFault => "AddressOutOfRange"
  | protectedWrite => "ProtectedMemoryWrite"

namespace Machine

/-! ### Errors -/

theorem name?_faultError (m : Machine) (f : Fault) (address : Int) :
    (m.faultError f.status.code.toNat address).name? = some f.errorName := by
  rw [faultError, Fault.ofCode?_status]
  cases f <;> rfl

/-- A fault is written on the console and told to the observers. -/
theorem reportFault_of_fault {m : Machine} {f : Fault} (h : m.state.status = f.status)
    (address : Nat) :
    m.reportFault address =
      let error := m.faultError f.status.code.toNat address
      let said := m.say .error error.message
      let told := said.1.tell (.fault error)
      ⟨told.1, .error error, said.2 ++ told.2⟩ := by
  rw [reportFault, h, Fault.ofCode?_status]

theorem name?_haltedError (f : Fault) :
    (haltedError f.status).name? = some "MachineHalted" := by
  cases f <;> rfl

/-- A machine that was halted by anything but a fault cannot say by what. -/
theorem haltedError_of_ne {st : Status} (h : st.isFatal = true) (hf : ∀ f : Fault, st ≠ f.status) :
    haltedError st = .unnamedStatus st.code.toNat := by
  have hcode (f : Fault) : st.code.toNat ≠ f.status.code.toNat := fun h =>
    hf f (congrArg Status.mk (UInt8.toNat_inj.mp h))
  have h3 : st.code.toNat ≠ 3 := hcode .stackUnderflow
  have h4 : st.code.toNat ≠ 4 := hcode .stackOverflow
  have h5 : st.code.toNat ≠ 5 := hcode .addressFault
  have h6 : st.code.toNat ≠ 6 := hcode .protectedWrite
  have hlow : 3 ≤ st.code.toNat := UInt8.le_iff_toNat_le.mp (of_decide_eq_true h)
  have hn : st.name? = none := by
    rw [Status.name?]
    split <;> first | rfl | omega
  rw [haltedError, hn]

/-! ### Instructions that have been executed -/

@[simp]
theorem tell_strict (m : Machine) (n : Notice) : (m.tell n).1.strict = m.strict := rfl

theorem tell_of_no_observers {m : Machine} (h : m.observers = []) (n : Notice) :
    m.tell n = (m, []) := by
  obtain ⟨state, console, observers, strict⟩ := m
  obtain rfl : observers = [] := h
  rfl

theorem instructionAt_of_le (m : Machine) {address : Nat} (h : address ≤ 0xFFE) :
    m.instructionAt address = some (m.state.memory.readWord address) := by
  rw [instructionAt, Memory.readWord?, if_pos ⟨by omega, by omega⟩, Int.toNat_natCast]

/-- An instruction in memory is reported by its record.  Without observers there is nobody to hear
of it, so it does not matter that no record is made. -/
theorem reportInstruction_of_le (m : Machine) {address : Nat} (h : address ≤ 0xFFE) :
    m.reportInstruction address =
      m.reportRecord
        (Record.ofState address (m.state.memory.readWord address).toNat m.state) := by
  rw [reportInstruction, m.instructionAt_of_le h]
  split
  case isTrue => rfl
  case isFalse hquiet =>
    rw [not_or, Bool.not_eq_false, List.isEmpty_iff] at hquiet
    obtain ⟨hknown, hnobody⟩ := hquiet
    rw [reportRecord, tell_of_no_observers hnobody, if_neg hknown]

/-! ### The three cases of a step -/

theorem step_of_halted {m : Machine} (h : m.state.halted = true) :
    m.step = ⟨m, .error (haltedError m.state.status), []⟩ := by
  simp [step, h]

theorem step_eq_reportFault {m : Machine} (hm : m.state.halted = false)
    (hs : m.state.step.halted = true) :
    m.step = ({ m with state := m.state.step } : Machine).reportFault m.state.pc.toNat := by
  simp [step, hm, hs]

theorem step_eq_reportRecord {m : Machine} (hm : m.state.halted = false)
    (hs : m.state.step.halted = false) :
    m.step = ({ m with state := m.state.step } : Machine).reportRecord
      (Record.ofState m.state.pc.toNat
        (m.state.step.memory.readWord m.state.pc.toNat).toNat m.state.step) := by
  have hp : m.state.pc.toNat ≤ 0xFFE := (State.step_executed hm hs).1
  rw [← reportInstruction_of_le ({ m with state := m.state.step } : Machine) hp]
  simp [step, hm, hs]

/-- What a step of a machine did. -/
inductive StepView (m : Machine) : Prop
  | halted (hs : m.state.halted = true)
      (hr : m.step = ⟨m, .error (haltedError m.state.status), []⟩)
  | faulted (f : Fault) (hs : m.state.halted = false) (hf : m.state.Stops f)
      (ht : m.state.step = { m.state with status := f.status })
      (hr : m.step.outcome =
        .error (m.step.machine.faultError f.status.code.toNat m.state.pc.toNat))
  | executed (hs : m.state.halted = false) (hh : m.state.step.halted = false)
      (hr : m.step.outcome =
        if m.state.step.status = .unimplementedOpcode ∧ m.strict = true then
          .error (.unimplementedOpcode m.state.pc.toNat
            (m.state.step.memory.readWord m.state.pc.toNat).toNat)
        else .ok m.state.step.status)

theorem step_view (m : Machine) : m.StepView := by
  cases m.state.step_view with
  | halted hs ht => exact .halted hs (step_of_halted hs)
  | faulted f hs hf ht =>
    have hh : m.state.step.halted = true := by
      rw [ht]
      exact f.isFatal_status
    refine .faulted f hs hf ht ?_
    have hst : ({ m with state := m.state.step } : Machine).state.status = f.status :=
      congrArg State.status ht
    rw [step_eq_reportFault hs hh, reportFault_of_fault hst]
    rfl
  | executed hs hf hp ht hh =>
    refine .executed hs hh ?_
    rw [step_eq_reportRecord hs hh, reportRecord]
    by_cases hu : m.state.step.status = .unimplementedOpcode
    · rw [if_pos hu]
      cases hstrict : m.strict with
      | false => simp [hu, reportUnimplemented]
      | true => simp [hu, reportUnimplemented, Record.ofState]
    · rw [if_neg hu, if_neg fun h => hu h.1]

/-! ### What telling leaves alone -/

/-- Neither the console nor the observers have a hand in the state. -/
theorem step_machine (m : Machine) :
    m.step.machine.state = m.state.step ∧ m.step.machine.strict = m.strict := by
  rcases hs : m.state.halted with - | -
  · rcases hh : m.state.step.halted with - | -
    · rw [step_eq_reportRecord hs hh, reportRecord]
      split <;> exact ⟨rfl, rfl⟩
    · rw [step_eq_reportFault hs hh, reportFault]
      split <;> exact ⟨rfl, rfl⟩
  · rw [step_of_halted hs, State.step_of_halted hs]
    exact ⟨rfl, rfl⟩

@[simp]
theorem step_state (m : Machine) : m.step.machine.state = m.state.step :=
  m.step_machine.1

@[simp]
theorem step_strict (m : Machine) : m.step.machine.strict = m.strict :=
  m.step_machine.2

end Machine

end Chip8
