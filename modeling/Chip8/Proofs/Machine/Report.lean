import Chip8.Proofs.Machine.Step

/-!
What a step answers and what it reports.  Both are given here by the state before the step, and
`step_eq` puts them together: the state of a machine takes a step, the machine tells what there is
to report in its order, and the outcome does not depend on who listens.

* `Fault.error` — the error of a fault, from the state that has it;
* `State.outcome` — the outcome of a step, from the state and whether the machine is strict;
* `Machine.report` — what a step has to say and to tell: of a fault the message first and then the
  notice, of an instruction its record, and of an unknown word a warning and a notice after that;
* `Machine.TellsFault` and `Machine.TellsInstruction` — what comes of a report on the console, with
  every observer and for the host.

A fault is put into words after the step, from the state it has left behind, and so is an unknown
word.  Both come out right because a fault changes nothing but the status (`faultError_eq`), and an
unknown word stores nothing (`word_step_of_unknown`).
-/

namespace Chip8

/-! ### Utterances -/

/-- Something a machine lets out. -/
inductive Utterance
  /-- A message for the console. -/
  | say (level : Level) (text : String)
  /-- A notice for the observers. -/
  | tell (n : Notice)

namespace Machine

/-- Let out one thing. -/
def utter (m : Machine) : Utterance → Machine × List Event
  | .say level text => m.say level text
  | .tell n => m.tell n

/-- Let out several things, the first one first. -/
def utterAll (m : Machine) : List Utterance → Machine × List Event
  | [] => (m, [])
  | u :: rest =>
    let first := m.utter u
    let others := first.1.utterAll rest
    (others.1, first.2 ++ others.2)

/-- The record of the cycle a machine runs next. -/
def record (m : Machine) : Record :=
  Record.ofState m.state.pc.toNat (m.state.step.memory.readWord m.state.pc.toNat).toNat
    m.state.step

end Machine

/-- A notice goes to every observer once, in order. -/
theorem Observer.receiveAll_eq (n : Notice) (os : List Observer) :
    receiveAll n os =
      (os.map fun o => (o.receive n).1, os.flatMap fun o => (o.receive n).2) := by
  induction os with
  | nil => rfl
  | cons o rest ih => simp only [receiveAll, ih, List.map_cons, List.flatMap_cons]

/-! ### Errors, from the state before the step -/

namespace State

/-- The word at `pc` as a number, if it lies in memory. -/
def instruction? (s : State) : Option Int :=
  if s.pc.toNat ≤ 0xFFE then some s.word.toNat else none

/-- The address that an access out of memory is blamed on: `pc` if it is the fetch, else `I`. -/
def blamed (s : State) : Int :=
  if s.pc.toNat ≤ 0xFFE then s.index.toNat else s.pc.toNat

end State

/-- The error a fault is reported by. -/
def Fault.error (s : State) : Fault → Error
  | stackUnderflow => .fault .stackUnderflow (some s.pc.toNat) s.instruction? ""
  | stackOverflow => .fault .stackOverflow (some s.pc.toNat) s.instruction? ""
  | addressFault => .addressOutOfRange (some s.blamed) (some s.pc.toNat) s.instruction?
  | protectedWrite => .fault .protectedWrite (some s.pc.toNat) s.instruction? ""

theorem Fault.name?_error (s : State) (f : Fault) : (f.error s).name? = some f.errorName := by
  cases f <;> rfl

/-- The error made up after a fault is that of the state before it. -/
theorem Machine.faultError_eq {m : Machine} {f : Fault}
    (ht : m.state.step = { m.state with status := f.status }) :
    ({ m with state := m.state.step } : Machine).faultError
      m.state.step.status.code.toNat m.state.pc.toNat = f.error m.state := by
  have hi : (({ m with state := m.state.step } : Machine).instructionAt m.state.pc.toNat).map
      (fun w => (w.toNat : Int)) = m.state.instruction? := by
    rw [ht]
    show m.state.currentWord?.map _ = _
    rw [State.currentWord?_eq, State.instruction?]
    split <;> rfl
  have hst : m.state.step.status = f.status := congrArg State.status ht
  have hindex : m.state.step.index = m.state.index := by rw [ht]
  simp only [faultError, hi, hst, Fault.ofCode?_status, hindex]
  cases f with
  | addressFault =>
    have hb : (if m.state.instruction?.isNone then (m.state.pc.toNat : Int)
        else m.state.index.toNat) = m.state.blamed := by
      rw [State.instruction?, State.blamed]
      split <;> rfl
    simp only [hb, Fault.error]
  | _ => rfl

namespace State

/-! ### Unknown words -/

variable {s : State}

/-- Only an unknown word ends with the status of an unknown word. -/
theorem unknown_of_status (h : s.step.status = .unimplementedOpcode) :
    s.halted = false ∧ s.step.halted = false ∧ s.Unknown := by
  have hh : s.step.halted = false := by
    rw [halted, h]
    rfl
  have hs := halted_of_step hh
  refine ⟨hs, hh, s.status_begun_perform.2.1.mp ?_⟩
  rw [(step_executed hs hh).2] at h
  exact h

/-- A step passes over an unknown word and changes nothing but `pc`, timers and status. -/
theorem step_of_unknown (h : s.step.status = .unimplementedOpcode) :
    s.step = (s.begun.withStatus .unimplementedOpcode).tickTimers := by
  obtain ⟨hs, hh, hu⟩ := unknown_of_status h
  have hi : Instruction.ofWord s.word = .unimplemented := by
    rw [Instruction.ofWord, s.unknown_iff.mp hu]
  rw [(step_executed hs hh).2, hi]
  rfl

/-- An unknown word still stands at its place after the step. -/
theorem word_step_of_unknown (h : s.step.status = .unimplementedOpcode) :
    s.step.memory.readWord s.pc.toNat = s.word := by
  rw [step_of_unknown h]
  rfl

/-- A step that does not end halted is a cycle without a fault. -/
theorem cycle_eq_ok (h : s.step.halted = false) : s.cycle = .ok s.step := by
  have hs := halted_of_step h
  rcases hc : s.cycle with f | next
  · rw [step_of_fault hs hc] at h
    exact absurd (h.symm.trans f.isFatal_status) Bool.noConfusion
  · simp [step, hs, hc]

/-- The fault whose status a step ends with is the one that stops the state. -/
theorem stops_of_status {f : Fault} (hs : s.halted = false)
    (h : s.step.status = f.status) : s.Stops f := by
  cases s.step_view with
  | halted h' _ => exact absurd (hs.symm.trans h') Bool.noConfusion
  | faulted g _ hg ht =>
    have hst : s.step.status = g.status := congrArg State.status ht
    exact Fault.status_injective (hst.symm.trans h) ▸ hg
  | executed _ _ _ _ hh =>
    rw [State.halted, h, Fault.isFatal_status] at hh
    cases hh

/-! ### The outcome of a step -/

/-- The outcome of a step. -/
def outcome (s : State) (strict : Bool) : Except Error Status :=
  if s.halted then
    .error (Machine.haltedError s.status)
  else
    match s.cycle with
    | .error f => .error (f.error s)
    | .ok next =>
      if next.status = .unimplementedOpcode ∧ strict = true then
        .error (.unimplementedOpcode s.pc.toNat s.word.toNat)
      else .ok next.status

variable {strict : Bool} {f : Fault}

theorem outcome_of_halted (h : s.halted = true) :
    s.outcome strict = .error (Machine.haltedError s.status) :=
  if_pos h

theorem outcome_of_stops (hs : s.halted = false) (hf : s.Stops f) :
    s.outcome strict = .error (f.error s) := by
  rw [outcome, hs, (s.cycle_eq_error_iff f).mpr hf]
  rfl

theorem outcome_of_executed (h : s.step.halted = false) :
    s.outcome strict =
      if s.step.status = .unimplementedOpcode ∧ strict = true then
        .error (.unimplementedOpcode s.pc.toNat s.word.toNat)
      else .ok s.step.status := by
  rw [outcome, halted_of_step h, cycle_eq_ok h]
  rfl

/-- What the outcome of a step can be, and when. -/
inductive OutcomeView (s : State) (strict : Bool) (o : Except Error Status) : Prop
  | halted (hs : s.halted = true) (ho : o = .error (Machine.haltedError s.status))
  | faulted (f : Fault) (hs : s.halted = false) (hst : s.step.status = f.status)
      (ho : o = .error (f.error s))
  | refused (hst : s.step.status = .unimplementedOpcode) (hstrict : strict = true)
      (ho : o = .error (.unimplementedOpcode s.pc.toNat s.word.toNat))
  | executed (hh : s.step.halted = false) (ho : o = .ok s.step.status)

theorem outcome_view (s : State) (strict : Bool) : s.OutcomeView strict (s.outcome strict) := by
  cases s.step_view with
  | halted hs ht => exact .halted hs (outcome_of_halted hs)
  | faulted f hs hf ht =>
    exact .faulted f hs (congrArg State.status ht) (outcome_of_stops hs hf)
  | executed hs hf hp ht hh =>
    have ho : s.outcome strict = _ := outcome_of_executed hh
    by_cases hu : s.step.status = .unimplementedOpcode ∧ strict = true
    · rw [if_pos hu] at ho
      exact .refused hu.1 hu.2 ho
    · rw [if_neg hu] at ho
      exact .executed hh ho

/-- An outcome other than an error is the status of a word that has been executed. -/
theorem status_of_outcome {st : Status} (h : s.outcome strict = .ok st) :
    s.step.halted = false ∧ s.step.status = st := by
  cases s.outcome_view strict with
  | halted hs ho | faulted f hs hst ho | refused hst hstrict ho =>
    rw [h] at ho
    cases ho
  | executed hh ho =>
    rw [h] at ho
    exact ⟨hh, (Except.ok.inj ho).symm⟩

/-- Only at an unknown word does it matter whether a machine is strict. -/
theorem outcome_strict (h : s.step.status ≠ .unimplementedOpcode) (strict : Bool) :
    s.outcome strict = s.outcome false := by
  cases s.step_view with
  | halted hs ht => rw [outcome_of_halted hs, outcome_of_halted hs]
  | faulted f hs hf ht => rw [outcome_of_stops hs hf, outcome_of_stops hs hf]
  | executed hs hf hp ht hh =>
    rw [outcome_of_executed hh, outcome_of_executed hh, if_neg fun hu => h hu.1,
      if_neg fun hu => h hu.1]

end State

namespace Machine

/-! ### The report of a step -/

/-- What there is to report of a fault. -/
def faultReport (e : Error) : List Utterance :=
  [.say .error e.message, .tell (.fault e)]

/-- What there is to report of an instruction that has been executed. -/
def instructionReport (r : Record) : List Utterance :=
  .tell (.instruction r) ::
    if r.status = .unimplementedOpcode then
      [.say .warning (Error.unimplementedOpcode r.address r.word).message,
        .tell (.unimplemented r)]
    else []

/-- What a step has to say and to tell. -/
def report (m : Machine) : List Utterance :=
  if m.state.halted then
    []
  else
    match m.state.cycle with
    | .error f => faultReport (f.error m.state)
    | .ok _ => instructionReport m.record

variable {m : Machine} {f : Fault}

theorem report_of_halted (h : m.state.halted = true) : m.report = [] :=
  if_pos h

theorem report_of_stops (hs : m.state.halted = false) (hf : m.state.Stops f) :
    m.report = faultReport (f.error m.state) := by
  rw [report, hs, (m.state.cycle_eq_error_iff f).mpr hf]
  rfl

theorem report_of_executed (h : m.state.step.halted = false) :
    m.report = instructionReport m.record := by
  rw [report, State.halted_of_step h, State.cycle_eq_ok h]
  rfl

/-! ### A step in one equation -/

theorem reportFault_eq {m : Machine} (h : m.state.status = f.status) (address : Nat) :
    m.reportFault address =
      let e := m.faultError f.status.code.toNat address
      let told := m.utterAll (faultReport e)
      ⟨told.1, .error e, told.2⟩ := by
  simp only [reportFault_of_fault h, faultReport, utterAll, utter, List.append_nil]

theorem reportRecord_eq (m : Machine) {r : Record} (h : r.status = m.state.status) :
    m.reportRecord r =
      let told := m.utterAll (instructionReport r)
      ⟨told.1,
        if m.state.status = .unimplementedOpcode ∧ m.strict = true then
          .error (.unimplementedOpcode r.address r.word)
        else .ok m.state.status, told.2⟩ := by
  by_cases hu : m.state.status = .unimplementedOpcode
  · rcases hstrict : m.strict with - | - <;>
      simp [reportRecord, reportUnimplemented, instructionReport, utterAll, utter, h, hu, hstrict]
  · simp [reportRecord, instructionReport, utterAll, utter, h, hu]

/-- **A step in one equation.**  The state takes a step, the machine reports it, and the outcome is
that of the state. -/
theorem step_eq (m : Machine) :
    m.step =
      let told := ({ m with state := m.state.step } : Machine).utterAll m.report
      ⟨told.1, m.state.outcome m.strict, told.2⟩ := by
  cases m.state.step_view with
  | halted hs ht =>
    rw [step_of_halted hs, report_of_halted hs, State.outcome_of_halted hs, ht]
    rfl
  | faulted f hs hf ht =>
    have hh : m.state.step.halted = true := by
      rw [ht]
      exact f.isFatal_status
    have hst : m.state.step.status = f.status := congrArg State.status ht
    rw [step_eq_reportFault hs hh, report_of_stops hs hf, State.outcome_of_stops hs hf,
      reportFault_eq hst, ← faultError_eq ht, hst]
  | executed hs hf hp ht hh =>
    rw [step_eq_reportRecord hs hh, report_of_executed hh, State.outcome_of_executed hh,
      reportRecord_eq _ rfl]
    -- the word that is read after the step counts only if it is unknown, and then it is unchanged
    by_cases hu : m.state.step.status = .unimplementedOpcode
    · have hw := State.word_step_of_unknown hu
      simp only [hw, record, Record.ofState]
    · simp only [hu, false_and, if_false]
      rfl

/-! ### What is told -/

/-- A fault is told by its message on the console, and then by one notice to every observer. -/
structure TellsFault (m : Machine) (e : Error) : Prop where
  console : m.step.machine.console = (m.console.log Level.error.name e.message).1
  observers : m.step.machine.observers = m.observers.map fun o => (o.receive (.fault e)).1
  events : m.step.events =
    (m.console.log Level.error.name e.message).2.toList.map .line ++
      m.observers.flatMap fun o => (o.receive (.fault e)).2

/-- An instruction is told by one notice to every observer.  If its word is unknown, a warning on
the console and another notice to every observer follow. -/
structure TellsInstruction (m : Machine) (r : Record) : Prop where
  known : m.state.step.status ≠ .unimplementedOpcode →
    m.step.machine.console = m.console ∧
      m.step.machine.observers = (m.observers.map fun o => (o.receive (.instruction r)).1) ∧
      m.step.events = m.observers.flatMap fun o => (o.receive (.instruction r)).2
  unknown : m.state.step.status = .unimplementedOpcode →
    let warned :=
      m.console.log Level.warning.name (Error.unimplementedOpcode r.address r.word).message
    let told := m.observers.map fun o => (o.receive (.instruction r)).1
    m.step.machine.console = warned.1 ∧
      m.step.machine.observers = (told.map fun o => (o.receive (.unimplemented r)).1) ∧
      m.step.events =
        (m.observers.flatMap fun o => (o.receive (.instruction r)).2) ++
          (warned.2.toList.map .line ++ told.flatMap fun o => (o.receive (.unimplemented r)).2)

theorem tellsFault {f : Fault} (hs : m.state.halted = false)
    (h : m.state.step.status = f.status) : m.TellsFault (f.error m.state) := by
  have he := m.step_eq
  rw [report_of_stops hs (State.stops_of_status hs h), faultReport] at he
  simp only [utterAll, utter, say, tell, Observer.receiveAll_eq, List.append_nil] at he
  refine ⟨?_, ?_, ?_⟩
  · rw [he]
  · rw [he]
  · rw [he]

theorem tellsInstruction (h : m.state.step.halted = false) : m.TellsInstruction m.record := by
  have he := m.step_eq
  have hst : m.record.status = m.state.step.status := rfl
  rw [report_of_executed h, instructionReport, hst] at he
  refine ⟨fun hu => ?_, fun hu => ?_⟩
  · rw [if_neg hu] at he
    simp only [utterAll, utter, tell, Observer.receiveAll_eq, List.append_nil] at he
    rw [he]
    exact ⟨rfl, rfl, rfl⟩
  · rw [if_pos hu] at he
    simp only [utterAll, utter, say, tell, Observer.receiveAll_eq, List.append_nil] at he
    rw [he]
    exact ⟨rfl, rfl, rfl⟩

end Machine

end Chip8
