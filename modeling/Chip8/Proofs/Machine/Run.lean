import Chip8.Proofs.Machine.Step
import Chip8.Proofs.Run.Action

/-!
Runs of a machine beside runs of its state.  `State.run` goes on for as many cycles as it was asked
for, also when the state is halted, where a cycle changes nothing (`State.run_of_halted`).
`Machine.run` stops at the first step that is refused.  For a machine that is not strict the two
come to the same state: the cycles that `Machine.run` leaves out are those that change nothing.

`Machine.Mirrors` puts the answer of a machine beside the statuses of its state.  A first cycle that
is refused, that faults, or that goes well decides how a longer run mirrors a shorter one
(`mirrors_of_halted`, `mirrors_of_fault`, `Mirrors.succ`), and `runFrom_mirrors` puts them together
by induction on the number of cycles.

The number of cycles is written before it is counted, if nothing else describes the run, so a number
that is too long is refused for that (`runLength_of_not_isWritable`).  Every number that can be counted
can be written (`maxCount_lt_writableBound`).

Main result: `run_agrees`, for every machine that is not strict and every number of cycles, also for
cycles that are run in several parts.
-/

namespace Chip8

/-! ### Runs of a state -/

namespace State

/-- A halted state stays as it is, and every cycle ends with its status. -/
theorem run_of_halted {s : State} (h : s.halted = true) (n : Nat) :
    s.run n = (s, List.replicate n s.status) := by
  induction n with
  | zero => rfl
  | succ n ih =>
    rw [run, step_of_halted h, ih]
    rfl

/-- Behind a cycle without a fault, the first fatal status is that of the remaining cycles. -/
theorem findIdx?_run_succ {s : State} (h : s.step.halted = false) (n : Nat) :
    (s.run (n + 1)).2.findIdx? Status.isFatal =
      ((s.step.run n).2.findIdx? Status.isFatal).map (· + 1) := by
  have hfatal : s.step.status.isFatal = false := h
  rw [run, List.findIdx?_cons, hfatal]
  rfl

/-- Several runs in a row: the last state, and all the statuses. -/
def runEach (s : State) : List Nat → State × List Status
  | [] => (s, [])
  | n :: rest =>
    let first := s.run n
    let others := first.1.runEach rest
    (others.1, first.2 ++ others.2)

/-- It does not matter how a run is divided. -/
theorem runEach_eq (s : State) (parts : List Nat) :
    s.runEach parts = s.run (parts.foldr (· + ·) 0) := by
  induction parts generalizing s with
  | nil => rfl
  | cons n rest ih => rw [runEach, List.foldr_cons, run_add, ih]

end State

/-! ### The number of cycles -/

namespace Host.Value

/-- What can be counted can be written. -/
theorem maxCount_lt_writableBound : maxCount < writableBound := by
  have h : 9223372036854775807 < writableBound := by decide +kernel
  exact Int.ofNat_lt.mpr h

variable {v : Value} {i : Int}

theorem runLength_of_isWritable (hi : v.index? = some i) (h : (Number.int i).isWritable = true)
    (description : Option String) : v.runLength description = v.count := by
  rw [runLength, hi]
  simp only [h, Bool.or_true, if_true]

/-- A number that is too long to be written cannot stand in for a description. -/
theorem runLength_of_not_isWritable (hi : v.index? = some i) (h : writableBound ≤ i.natAbs) :
    v.runLength none = .error .tooManyDigits := by
  have hlong : (Number.int i).isWritable = false := by
    rw [← Bool.not_eq_true, Number.isWritable_int_iff]
    exact Nat.not_lt.mpr h
  rw [runLength, hi]
  simp only [hlong, Option.any_none, Bool.or_false, Bool.false_eq_true, if_false]

/-- Where there is a cycle to run, its number was not too long to be written. -/
theorem runLength_eq_count {n : Nat} (h : v.count = .ok (n + 1)) (description : Option String) :
    v.runLength description = .ok (n + 1) := by
  have hmax := maxCount_lt_writableBound
  rw [← h]
  rw [count] at h
  split at h
  case h_1 i hi =>
    split at h
    case isTrue hle =>
      have hn : i.toNat = n + 1 := Except.ok.inj h
      refine runLength_of_isWritable hi ((Number.isWritable_int_iff i).mpr ?_) description
      omega
    case isFalse => cases h
  case h_2 => cases h

theorem runLength_int {n : Nat} (h : n < writableBound) (description : Option String) :
    (int n).runLength description = (int n).count :=
  runLength_of_isWritable rfl ((Number.isWritable_int_iff n).mpr h) description

end Host.Value

namespace Machine

/-! ### Runs of a machine -/

/-- Steps in a row, refused or not: the machine after them, and what happened meanwhile. -/
def steps (m : Machine) : Nat → Machine × List Event
  | 0 => (m, [])
  | n + 1 =>
    let rest := m.step.machine.steps n
    (rest.1, m.step.events ++ rest.2)

/-- The machine after several runs in a row, refused or not. -/
def runEach (m : Machine) (parts : List Nat) : Machine :=
  parts.foldl (fun m (n : Nat) => (m.run (.int n)).machine) m

theorem runFrom_succ_of_error {m : Machine} {e : Error} (h : m.step.outcome = .error e)
    (last : Status) (n : Nat) :
    m.runFrom last (n + 1) = ⟨m.step.machine, .error e, m.step.events⟩ := by
  rw [runFrom, h]

theorem runFrom_succ_of_ok {m : Machine} {st : Status} (h : m.step.outcome = .ok st)
    (last : Status) (n : Nat) :
    m.runFrom last (n + 1) =
      ⟨(m.step.machine.runFrom st n).machine, (m.step.machine.runFrom st n).outcome,
        m.step.events ++ (m.step.machine.runFrom st n).events⟩ := by
  rw [runFrom, h]

theorem runFrom_strict (m : Machine) (last : Status) (n : Nat) :
    (m.runFrom last n).machine.strict = m.strict := by
  induction n generalizing m last with
  | zero => rfl
  | succ n ih =>
    rcases h : m.step.outcome with e | st
    · rw [runFrom_succ_of_error h, step_strict]
    · rw [runFrom_succ_of_ok h, ih, step_strict]

theorem run_of_le (m : Machine) {n : Nat} (h : (n : Int) ≤ Host.Value.maxCount)
    (description : Option String) : m.run (.int n) description = m.runFrom .ok n := by
  have hn : n < Host.writableBound :=
    Int.ofNat_lt.mp (Int.lt_of_le_of_lt h Host.Value.maxCount_lt_writableBound)
  have hcount : (Host.Value.int n).count = .ok n := if_pos h
  rw [run, Host.Value.runLength_int hn, hcount]

/-- A number of cycles that can be written, but not counted. -/
theorem run_of_maxCount_lt (m : Machine) {n : Nat} (h : Host.Value.maxCount < n)
    (hn : n < Host.writableBound) (description : Option String) :
    m.run (.int n) description = ⟨m, .error .overflow, []⟩ := by
  have hcount : (Host.Value.int n).count = .error .overflow := if_neg (Int.not_le.mpr h)
  rw [run, Host.Value.runLength_int hn, hcount]

/-- A number of cycles that cannot even be written. -/
theorem run_of_writableBound_le (m : Machine) {n : Nat} (h : Host.writableBound ≤ n) :
    m.run (.int n) = ⟨m, .error .tooManyDigits, []⟩ := by
  have hcycles : (Host.Value.int n).runLength none = .error .tooManyDigits :=
    Host.Value.runLength_of_not_isWritable rfl h
  rw [run, hcycles]

/-- What the answer to a run of `n` cycles has to do with the run of the state.  Without cycles the
status is `last`. -/
structure Mirrors (m : Machine) (last : Status) (n : Nat) (r : Reply Status) : Prop where
  /-- The states are the same, whether or not a step was refused. -/
  state : r.machine.state = (m.state.run n).1
  /-- Without a fatal status all cycles are run, and the last status is the outcome. -/
  ok : m.state.halted = false → (m.state.run n).2.findIdx? Status.isFatal = none →
    (r.machine, r.events) = m.steps n ∧ r.outcome = .ok ((m.state.run n).2.getLastD last)
  /-- The first fatal status is that of a fault.  The cycles up to it are run, its own among them,
  and the outcome is the error of that fault. -/
  fault : m.state.halted = false →
    ∀ k, (m.state.run n).2.findIdx? Status.isFatal = some k →
      (r.machine, r.events) = m.steps (k + 1) ∧
        ∃ f : Fault, (m.state.run n).2[k]? = some f.status ∧
          ∃ e, r.outcome = .error e ∧ e.name? = some f.errorName
  /-- A halted machine runs no cycle. -/
  halted : m.state.halted = true → 0 < n → r = ⟨m, .error (haltedError m.state.status), []⟩

/-! ### The three cases of a first cycle -/

theorem mirrors_of_halted {m : Machine} (hs : m.state.halted = true) (last : Status) (n : Nat) :
    m.Mirrors last n ⟨m, .error (haltedError m.state.status), []⟩ := by
  refine ⟨?_, fun h => ?_, fun h => ?_, fun _ _ => rfl⟩
  · rw [State.run_of_halted hs]
  · exact absurd (hs.symm.trans h) Bool.noConfusion
  · exact absurd (hs.symm.trans h) Bool.noConfusion

/-- Where the first cycle faults, the remaining cycles of the state change nothing. -/
theorem mirrors_of_fault {m : Machine} {f : Fault} {e : Error} (hs : m.state.halted = false)
    (hst : m.state.step.status = f.status) (he : e.name? = some f.errorName) (last : Status)
    (n : Nat) : m.Mirrors last (n + 1) ⟨m.step.machine, .error e, m.step.events⟩ := by
  have hh : m.state.step.halted = true := by
    rw [State.halted, hst]
    exact f.isFatal_status
  have hrun : m.state.run (n + 1) = (m.state.step, f.status :: List.replicate n f.status) := by
    rw [State.run, State.run_of_halted hh, hst]
  have hfirst : (m.state.run (n + 1)).2.findIdx? Status.isFatal = some 0 := by
    rw [hrun, List.findIdx?_cons, Fault.isFatal_status]
    rfl
  refine ⟨?_, fun _ h => ?_, fun _ k hk => ?_, fun h => ?_⟩
  · rw [hrun, step_state]
  · rw [hfirst] at h
    cases h
  · rw [hfirst] at hk
    cases hk
    refine ⟨?_, f, ?_, e, rfl, he⟩
    · rw [steps, steps, List.append_nil]
    · rw [hrun]
      rfl
  · exact absurd (hs.symm.trans h) Bool.noConfusion

/-- A cycle without a fault comes before what the remaining cycles mirror. -/
theorem Mirrors.succ {m : Machine} {n : Nat} {r : Reply Status} (hs : m.state.halted = false)
    (hh : m.state.step.halted = false) (h : m.step.machine.Mirrors m.state.step.status n r)
    (last : Status) :
    m.Mirrors last (n + 1) ⟨r.machine, r.outcome, m.step.events ++ r.events⟩ := by
  obtain ⟨hstate, hok, hfault, -⟩ := h
  rw [step_state] at hstate hok hfault
  refine ⟨hstate, fun _ hnone => ?_, fun _ k hk => ?_, fun h => ?_⟩
  · rw [State.findIdx?_run_succ hh, Option.map_eq_none_iff] at hnone
    obtain ⟨hsteps, hlast⟩ := hok hh hnone
    refine ⟨?_, ?_⟩
    · rw [steps, ← hsteps]
    · rw [hlast, State.run, List.getLastD_cons]
  · -- the first fatal status stands one place further on
    rw [State.findIdx?_run_succ hh, Option.map_eq_some_iff] at hk
    obtain ⟨k, hk, rfl⟩ := hk
    obtain ⟨hsteps, f, hf, he⟩ := hfault hh k hk
    refine ⟨?_, f, hf, he⟩
    rw [steps, ← hsteps]
  · exact absurd (hs.symm.trans h) Bool.noConfusion

/-! ### Whole runs -/

theorem runFrom_mirrors {m : Machine} (hm : m.strict = false) (last : Status) (n : Nat) :
    m.Mirrors last n (m.runFrom last n) := by
  induction n generalizing m last with
  | zero =>
    refine ⟨rfl, fun _ _ => ⟨rfl, rfl⟩, fun _ k hk => ?_, fun _ hn => absurd hn (Nat.lt_irrefl 0)⟩
    cases hk
  | succ n ih =>
    cases m.step_view with
    | halted hs hr =>
      have hout : m.step.outcome = .error (haltedError m.state.status) := by rw [hr]
      rw [runFrom_succ_of_error hout, hr]
      exact mirrors_of_halted hs last (n + 1)
    | faulted f hs hf ht hr =>
      rw [runFrom_succ_of_error hr]
      exact mirrors_of_fault hs (congrArg State.status ht) (name?_faultError _ f _) last n
    | executed hs hh hr =>
      have hout : m.step.outcome = .ok m.state.step.status := by
        rw [hr, if_neg fun h => Bool.noConfusion (hm.symm.trans h.2)]
      rw [runFrom_succ_of_ok hout]
      exact (ih (m.step_strict.trans hm) m.state.step.status).succ hs hh last

theorem runEach_state {m : Machine} (hm : m.strict = false) (parts : List Nat)
    (hp : ∀ k ∈ parts, (k : Int) ≤ Host.Value.maxCount) :
    (m.runEach parts).state = (m.state.run (parts.foldr (· + ·) 0)).1 := by
  induction parts generalizing m with
  | nil => rfl
  | cons n rest ih =>
    -- a part that can be counted is run, and leaves a machine that is not strict either
    have hrun : m.run (.int n) = m.runFrom .ok n := m.run_of_le (hp n List.mem_cons_self) none
    have hstrict : (m.run (.int n)).machine.strict = false := by
      rw [hrun, runFrom_strict, hm]
    have hrest := ih hstrict fun k hk => hp k (List.mem_cons_of_mem n hk)
    rw [hrun, (runFrom_mirrors hm .ok n).state] at hrest
    rw [List.foldr_cons, State.run_add, ← hrest, runEach, List.foldl_cons, hrun]
    rfl

/-- **Both layers agree on runs.**  For a machine that is not strict, a run of `n` cycles mirrors
the run of its state: both come to the same state, and the outcome is the last status or else the
error of the first fatal one.  A machine that was halted before refuses to run, as a halted machine
if its status is that of a fault, and for want of a name otherwise.  A number of cycles too great to
be counted is refused, and so is one too long to be written, as it is to describe the run.  Dividing
a run into parts changes neither the state nor the statuses. -/
theorem run_agrees (m : Machine) (hm : m.strict = false) (n : Nat) :
    ((n : Int) ≤ Host.Value.maxCount →
        ∀ description, m.Mirrors .ok n (m.run (.int n) description)) ∧
      (Host.Value.maxCount < n → n < Host.writableBound →
        ∀ description, m.run (.int n) description = ⟨m, .error .overflow, []⟩) ∧
      (Host.writableBound ≤ n → m.run (.int n) = ⟨m, .error .tooManyDigits, []⟩) ∧
      (∀ f : Fault, m.state.status = f.status →
        (haltedError m.state.status).name? = some "MachineHalted") ∧
      (m.state.halted = true → (∀ f : Fault, m.state.status ≠ f.status) →
        haltedError m.state.status = .unnamedStatus m.state.status.code.toNat) ∧
      ∀ parts : List Nat, parts.foldr (· + ·) 0 = n →
        m.state.runEach parts = m.state.run n ∧
          ((∀ k ∈ parts, (k : Int) ≤ Host.Value.maxCount) →
            (m.runEach parts).state = (m.state.run n).1) := by
  refine ⟨fun hn description => ?_, fun hn hlength => m.run_of_maxCount_lt hn hlength,
    m.run_of_writableBound_le, fun f hf => ?_, haltedError_of_ne, fun parts hsum => ?_⟩
  · rw [m.run_of_le hn description]
    exact runFrom_mirrors hm .ok n
  · rw [hf]
    exact name?_haltedError f
  · subst hsum
    exact ⟨m.state.runEach_eq parts, runEach_state hm parts⟩

/-- A machine in a state, with one observer. -/
def watched (s : State) : Machine where
  state := s
  console := ⟨.text "Chip8", .info, .bool false, .bool true, 0, Clock.ofReadings []⟩
  observers := [.listener]
  strict := false

/-- `6001`, and a return with no call pending behind it. -/
def strayReturn : State :=
  .loaded [0x60, 0x01, 0x00, 0xEE]

theorem step_strayReturn :
    strayReturn.step.halted = false ∧
      strayReturn.step.step.status = Fault.stackUnderflow.status := by
  obtain ⟨heq, hs⟩ : strayReturn.step = (strayReturn.begun.perform (.set 0 0x01)).tickTimers ∧
      strayReturn.step.halted = false :=
    State.step_loaded (by decide) (by decide) (by decide) (by decide)
  refine ⟨hs, ?_⟩
  have hload := State.loaded_eq [0x60, 0x01, 0x00, 0xEE] (by decide)
  have hp : strayReturn.step.pc = 0x202 := by
    rw [heq, strayReturn, hload]
    rfl
  have hi : Instruction.ofWord strayReturn.step.word = .ret := by
    rw [heq, strayReturn, hload, State.word_writeAll (i := 2) rfl rfl (by decide) (by decide)]
    decide
  have hf : strayReturn.step.fault? .ret = some .stackUnderflow := by
    rw [heq, strayReturn, hload]
    rfl
  have hstop : strayReturn.step.Stops .stackUnderflow := by
    refine .execute (by rw [hp]; decide) (State.refuses_of_fault? ?_)
    rw [hi]
    exact hf
  exact congrArg State.status (State.step_of_fault hs ((State.cycle_eq_error_iff _ _).mpr hstop))

/-- Of ten cycles two are run, and the second raises the error of its fault. -/
theorem run_agrees_strayReturn :
    (watched strayReturn).strict = false ∧
      (((watched strayReturn).run (.int 10)).machine,
        ((watched strayReturn).run (.int 10)).events) = (watched strayReturn).steps 2 ∧
      (∃ e, ((watched strayReturn).run (.int 10)).outcome = .error e ∧
        e.name? = some "StackUnderflow") ∧
      ((watched strayReturn).runEach [1, 9]).state = (strayReturn.run 10).1 := by
  obtain ⟨hs, hst⟩ := step_strayReturn
  have hfirst : (strayReturn.run 10).2.findIdx? Status.isFatal = some 1 := by
    rw [State.findIdx?_run_succ hs, State.run, List.findIdx?_cons, hst]
    rfl
  obtain ⟨hrun, -, -, -, -, hparts⟩ := run_agrees (watched strayReturn) rfl 10
  have hmirrors := hrun (by decide) none
  obtain ⟨hsteps, f, hf, e, he, hname⟩ := hmirrors.fault rfl 1 hfirst
  -- the second status is that of the fault, so it is the fault of the error
  have hunder : f = .stackUnderflow := by
    have hsecond : (strayReturn.run 10).2[1]? = some Fault.stackUnderflow.status := by
      rw [← hst]
      rfl
    exact Fault.status_injective (Option.some.inj (hf.symm.trans hsecond))
  rw [hunder] at hname
  exact ⟨rfl, hsteps, ⟨e, he, hname⟩, (hparts [1, 9] rfl).2 (by decide)⟩

/-- A machine that the host has put into a status. -/
def put (st : Status) : Machine :=
  watched { State.initial ⟨0, 0⟩ with status := st }

/-- Halted machines that refuse to run for another reason than that they are halted: the status has
no name, or the number of cycles is too great. -/
theorem run_refusal_nameless :
    (put ⟨7⟩).strict = false ∧ (put ⟨7⟩).state.halted = true ∧
      (∃ e, ((put ⟨7⟩).run (.int 1)).outcome = .error e ∧ e.name? = none) ∧
      (put ⟨3⟩).strict = false ∧ (put ⟨3⟩).state.halted = true ∧
      ∃ e, ((put ⟨3⟩).run (.int 9223372036854775808)).outcome = .error e ∧ e.name? = none := by
  have hs : (put ⟨7⟩).state.halted = true := by decide
  have hstep : (put ⟨7⟩).step.outcome = .error (.unnamedStatus 7) := by
    rw [step_of_halted hs]
    rfl
  have hone : ((put ⟨7⟩).run (.int 1)).outcome = .error (.unnamedStatus 7) := by
    show ((put ⟨7⟩).run (.int (1 : Nat))).outcome = _
    rw [run_of_le _ (by decide), runFrom_succ_of_error hstep]
  have hmany : ((put ⟨3⟩).run (.int 9223372036854775808)).outcome = .error .overflow := by
    show ((put ⟨3⟩).run (.int (9223372036854775808 : Nat))).outcome = _
    rw [run_of_maxCount_lt _ (by decide) (by decide +kernel)]
  exact ⟨rfl, hs, ⟨_, hone, rfl⟩, rfl, by decide, _, hmany, rfl⟩

end Machine

end Chip8
