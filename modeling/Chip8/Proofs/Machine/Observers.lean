import Chip8.Proofs.Machine.Call

/-!
Observers without influence.  Two machines with the same random key, but with other observers, other
consoles and other levels, are given the same actions.  `Machine.Alike` compares what they make of
the next one: the same state, and the same outcome, errors included.  If one of them is strict and
the other is not, there is one exception, the step over an unknown word, and `Alike` says what
either machine makes of it.

Nothing a machine lets out is asked for an answer, and what it lets out is made of the state alone.
So the states go in lockstep (`after_act`), and an outcome is a function of the state and of whether
the machine is strict (`act_outcome`).

Main result: `alike_of_key_eq`, for every two setups of machines and every list of actions.
-/

namespace Chip8.Machine

/-- What two machines make of the same action, the second one strict if one of them is. -/
structure Alike (m m' : Machine) (a : State.Action) : Prop where
  before : m.state = m'.state
  after : (m.act a).machine.state = (m'.act a).machine.state
  /-- Machines that are equally strict answer the same. -/
  equallyStrict : m.strict = m'.strict → (m.act a).outcome = (m'.act a).outcome
  /-- A strict machine answers as one that is not, where that meets no unknown word. -/
  known : m.strict = false → (m.act a).outcome ≠ .ok (.status .unimplementedOpcode) →
    (m'.act a).outcome = (m.act a).outcome
  /-- A strict machine refuses an unknown word, by its address, and goes on behind it. -/
  unknown : m.strict = false → m'.strict = true →
    (m.act a).outcome = .ok (.status .unimplementedOpcode) →
    (m'.act a).outcome = .error (.unimplementedOpcode m.state.pc.toNat m.state.word.toNat) ∧
      m.state.Unknown ∧ (m'.act a).machine.state.halted = false ∧
      (m'.act a).machine.state.status = .unimplementedOpcode ∧
      (m'.act a).machine.state.pc.toNat = m.state.pc.toNat + 2

/-! ### One action -/

variable {s : State} {a : State.Action}

/-- Only a step over an unknown word ends with its status. -/
theorem eq_step_of_answer {strict : Bool}
    (h : s.answer strict a = .ok (.status .unimplementedOpcode)) :
    a = .step ∧ s.step.status = .unimplementedOpcode := by
  cases a with
  | step =>
    rcases ho : s.outcome strict with e | st
    · rw [State.answer, ho] at h
      cases h
    · rw [State.answer, ho] at h
      cases h
      exact ⟨rfl, (State.status_of_outcome ho).2⟩
  | load program =>
    rw [State.answer] at h
    cases hl : s.loadProgram program <;> rw [hl] at h <;> cases h
  | press key =>
    rw [State.answer] at h
    cases hk : s.pressKey key <;> rw [hk] at h <;> cases h
  | release key =>
    rw [State.answer] at h
    cases hk : s.releaseKey key <;> rw [hk] at h <;> cases h

/-- A step over an unknown word has its status as the outcome, or else its error. -/
theorem answer_step_of_unknown (h : s.step.status = .unimplementedOpcode) (strict : Bool) :
    s.answer strict .step =
      if strict then .error (.unimplementedOpcode s.pc.toNat s.word.toNat)
      else .ok (.status .unimplementedOpcode) := by
  obtain ⟨-, hh, -⟩ := State.unknown_of_status h
  rw [State.answer, State.outcome_of_executed hh, h]
  cases strict <;> rfl

/-- Apart from unknown words, it makes no difference whether a machine is strict. -/
theorem answer_strict (h : s.answer false a ≠ .ok (.status .unimplementedOpcode))
    (strict : Bool) : s.answer strict a = s.answer false a := by
  cases a with
  | step =>
    have hu : s.step.status ≠ .unimplementedOpcode := fun hu =>
      h (answer_step_of_unknown hu false)
    rw [State.answer, State.answer, State.outcome_strict hu]
  | load program | press key | release key => rfl

/-- Machines in one state make the same of an action. -/
theorem alike_of_state_eq {m m' : Machine} (h : m.state = m'.state) (a : State.Action) :
    m.Alike m' a := by
  have hafter : (m'.act a).machine.state = m.state.act a := by rw [(m'.act_state a).1, h]
  refine ⟨h, ?_, fun hstrict => ?_, fun hstrict hne => ?_, fun hstrict hstrict' hu => ?_⟩
  · rw [(m.act_state a).1, hafter]
  · rw [act_outcome, act_outcome, h, hstrict]
  · rw [act_outcome, hstrict] at hne
    rw [act_outcome, act_outcome, hstrict, ← h]
    exact answer_strict hne m'.strict
  · rw [act_outcome, hstrict] at hu
    obtain ⟨rfl, hst⟩ := eq_step_of_answer hu
    obtain ⟨hs, hh, hunknown⟩ := State.unknown_of_status hst
    have hp := (State.step_executed hs hh).1
    rw [act_outcome, ← h, hstrict', hafter]
    refine ⟨answer_step_of_unknown hst true, hunknown, hh, hst, ?_⟩
    show m.state.step.pc.toNat = _
    rw [State.step_of_unknown hst]
    exact State.toNat_pc_add_two (by omega)

/-! ### Lists of actions -/

/-- **Who listens has no influence.**  Two machines that are set up with the same random key, and
with any observers, consoles and levels, make the same of every action in every list of actions,
refused or not.  Only at an unknown word does it show which of them is strict. -/
theorem alike_of_key_eq (setup setup' : Setup) (m m' : Machine) (hm : ofSetup setup = .ok m)
    (hm' : ofSetup setup' = .ok m') (hkey : setup.key = setup'.key) (actions : List State.Action)
    (a : State.Action) :
    (m.after (actions.map .act)).Alike (m'.after (actions.map .act)) a := by
  obtain ⟨⟨key, hk, hs⟩, -⟩ := ofSetup_eq_ok hm
  obtain ⟨⟨key', hk', hs'⟩, -⟩ := ofSetup_eq_ok hm'
  rw [hk, hk'] at hkey
  refine alike_of_state_eq ?_ a
  rw [(m.after_act actions).1, (m'.after_act actions).1, hs, hs', Except.ok.inj hkey]

/-- A setup with nobody who listens, from a seed. -/
def plain : Setup where
  seed := .int 0

/-- A setup with a printer, a recorder and a talkative console, strict, from a random key. -/
def traced : Setup where
  rng := some ⟨0, 0⟩
  observers := [.printer printerSettings, .recorder []]
  level := .text "DEBUG"
  strict := .bool true

/-- With `FFFF` loaded, one machine passes over it and the other refuses it, and they stay alike. -/
theorem alike_of_key_eq_unknownWord :
    ∃ m m', ofSetup plain = .ok m ∧ ofSetup traced = .ok m' ∧ plain.key = traced.key ∧
      (let load := Call.act (.load (.buffer .fixed [0xFF, 0xFF]))
      ((m.after [load]).act .step).outcome = .ok (.status .unimplementedOpcode) ∧
        ((m'.after [load]).act .step).outcome = .error (.unimplementedOpcode 0x200 0xFFFF) ∧
        ((m.after [load]).act .step).machine.state =
          ((m'.after [load]).act .step).machine.state) := by
  obtain ⟨m, hm⟩ : ∃ m, ofSetup plain = .ok m := ⟨_, rfl⟩
  obtain ⟨m', hm'⟩ : ∃ m', ofSetup traced = .ok m' := ⟨_, rfl⟩
  have hkey : plain.key = traced.key := rfl
  let load : State.Action := .load (.buffer .fixed [0xFF, 0xFF])
  have halike := alike_of_key_eq plain traced m m' hm hm' hkey [load] .step
  obtain ⟨⟨key, hk, hs⟩, hstrict⟩ := ofSetup_eq_ok hm
  obtain ⟨-, hstrict'⟩ := ofSetup_eq_ok hm'
  obtain rfl : ⟨0, 0⟩ = key := Except.ok.inj hk
  obtain ⟨hafter, hkept⟩ : (m.after [.act load]).state = m.state.follow [load] ∧
      (m.after [.act load]).strict = m.strict := m.after_act [load]
  have hkept' : (m'.after [.act load]).strict = m'.strict := (m'.after_act [load]).2
  -- the state to step from, and the step
  have hstate : (m.after [.act load]).state = State.loaded [0xFF, 0xFF] := by
    rw [hafter, hs]
    rfl
  have hstep : (State.loaded [0xFF, 0xFF]).step.status = .unimplementedOpcode := by
    rw [(State.step_loaded (by decide) (by decide) (i := .unimplemented) (by decide)
      (by decide)).1]
    rfl
  have hout : ((m.after [.act load]).act .step).outcome = .ok (.status .unimplementedOpcode) := by
    rw [act_outcome, hstate, hkept, hstrict, answer_step_of_unknown hstep]
    rfl
  have hrefused : ((m'.after [.act load]).act .step).outcome =
      .error (.unimplementedOpcode (m.after [.act load]).state.pc.toNat
        (m.after [.act load]).state.word.toNat) :=
    (halike.unknown (hkept.trans hstrict) (hkept'.trans hstrict') hout).1
  have hload := State.loaded_eq [0xFF, 0xFF] (by decide)
  have hw : (m.after [.act load]).state.word = 0xFFFF := by
    rw [hstate, hload, State.word_writeAll (i := 0) rfl rfl (by decide) (by decide)]
    decide
  have hp : (m.after [.act load]).state.pc = 0x200 := by
    rw [hstate, hload]
    rfl
  rw [hw, hp] at hrefused
  exact ⟨m, m', hm, hm', hkey, hout, hrefused, halike.after⟩

end Chip8.Machine
