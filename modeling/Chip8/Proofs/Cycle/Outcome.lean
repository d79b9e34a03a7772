import Chip8.Cycle
import Chip8.Proofs.Execution.Effect
import Chip8.Proofs.Execution.Fault
import Chip8.Proofs.Memory

/-!
How a cycle ends.  A step does one of three things, and `step_view` is the one place where
`State.step` is opened to say so:

* a halted machine stays as it is;
* a fault replaces the status and nothing else;
* otherwise the word at `pc` is executed from `State.begun` and both timers tick.

`State.Stops` says when the second case arises, and with which fault, in terms of the state before
the step: the fetch leaves memory, or the word at `pc` is one that `State.Refuses` lists.

Main result: `step_outcome` characterises the status a step ends with, for every state that is not
halted, and says that a fault leaves the rest of the state alone.
-/

namespace Chip8

/-- Distinct faults have distinct codes. -/
theorem Fault.status_injective : Function.Injective Fault.status := by
  intro f g h
  cases f <;> cases g <;> first | rfl | exact absurd h (by decide)

namespace State

/-! ### The word at `pc` -/

/-- The big-endian word at `pc`. -/
def word (s : State) : Word :=
  s.memory.readWord s.pc.toNat

/-- At a distance from the start of a stored block, the word is spelled by the block. -/
theorem word_writeAll {s : State} {m : Memory} {a i : Nat} {bs : List UInt8}
    (hm : s.memory = m.writeAll a bs) (hp : s.pc.toNat = a + i) (hi : i + 1 < bs.length)
    (ha : a + i + 1 < 4096) : s.word = Memory.joinBytes bs[i] bs[i + 1] := by
  rw [word, hm, hp]
  exact Memory.readWord_writeAll m a bs i hi ha

theorem currentWord?_eq (s : State) :
    s.currentWord? = if s.pc.toNat ≤ 0xFFE then some s.word else none := by
  have h : (0 ≤ (s.pc.toNat : Int) ∧ (s.pc.toNat : Int) ≤ 4094) ↔ s.pc.toNat ≤ 0xFFE := by omega
  simp only [currentWord?, Memory.readWord?, h, Int.toNat_natCast, word]

/-- The faults a cycle from `s` can end with. -/
inductive Stops (s : State) : Fault → Prop
  /-- The word to fetch does not lie in memory. -/
  | fetch : 0xFFE < s.pc.toNat → Stops s .addressFault
  /-- The word at `pc` faults. -/
  | execute {f : Fault} : s.pc.toNat ≤ 0xFFE → s.Refuses s.word f → Stops s f

/-! ### A cycle, by its faults -/

/-- The state an instruction starts from: `pc` past its word, the status normal. -/
def begun (s : State) : State :=
  { s with pc := s.pc + 2, status := .ok }

@[simp]
theorem begun_pc (s : State) : s.begun.pc = s.pc + 2 := rfl

@[simp]
theorem begun_stack (s : State) : s.begun.stack = s.stack := rfl

theorem cycle_eq (s : State) :
    s.cycle =
      if s.pc.toNat ≤ 0xFFE then
        match s.fault? (Instruction.ofWord s.word) with
        | some f => .error f
        | none => .ok (s.begun.perform (Instruction.ofWord s.word)).tickTimers
      else .error .addressFault := by
  by_cases hp : s.pc.toNat ≤ 0xFFE
  · -- the test looks at `I` and the stack, which the fetch leaves alone
    have ha : s.fetch.2.attempt (Instruction.ofWord s.word) =
        match s.fault? (Instruction.ofWord s.word) with
        | some f => .error f
        | none => .ok (s.begun.perform (Instruction.ofWord s.word)) := rfl
    rw [if_pos hp, cycle, currentWord?_eq, if_pos hp]
    simp only [ha]
    cases s.fault? (Instruction.ofWord s.word) <;> rfl
  · rw [if_neg hp, cycle, currentWord?_eq, if_neg hp]

/-- A cycle fails exactly by the rules of `Stops`. -/
theorem cycle_eq_error_iff (s : State) (f : Fault) : s.cycle = .error f ↔ s.Stops f := by
  rw [cycle_eq]
  constructor
  · intro h
    by_cases hp : s.pc.toNat ≤ 0xFFE
    · rw [if_pos hp] at h
      rcases hf : s.fault? (Instruction.ofWord s.word) with - | g
      · rw [hf] at h
        cases h
      · rw [hf] at h
        cases h
        exact .execute hp ((s.fault?_ofWord_iff _ _).mp hf)
    · rw [if_neg hp] at h
      cases h
      exact .fetch (by omega)
  · rintro (hp | ⟨hp, hr⟩)
    · rw [if_neg (by omega)]
    · rw [if_pos hp, (s.fault?_ofWord_iff _ _).mpr hr]

/-- A cycle has at most one fault. -/
theorem Stops.unique {s : State} {f g : Fault} (hf : s.Stops f) (hg : s.Stops g) : f = g := by
  rw [← cycle_eq_error_iff] at hf hg
  exact Except.error.inj (hf.symm.trans hg)

/-! ### The status of a cycle without a fault -/

theorem lowestKeyDown?_eq_none_iff (s : State) :
    s.lowestKeyDown? = none ↔ ∀ k, s.keyDown k = false := by
  simp [lowestKeyDown?]

/-- `FX0A` stands at `pc` and no key is down. -/
def Waits (s : State) : Prop :=
  s.word &&& 0xF0FF = 0xF00A ∧ ∀ k, s.keyDown k = false

/-- The word at `pc` matches no pattern. -/
def Unknown (s : State) : Prop :=
  ∀ p ∈ Opcode.patterns, p.matches s.word = false

theorem waits_iff (s : State) :
    s.Waits ↔ Opcode.ofWord s.word = .waitForKey ∧ s.lowestKeyDown? = none := by
  rw [Waits, lowestKeyDown?_eq_none_iff,
    Opcode.ofWord_eq_iff (show ⟨0xF0FF, 0xF00A, .waitForKey⟩ ∈ Opcode.patterns by decide)]

theorem unknown_iff (s : State) : s.Unknown ↔ Opcode.ofWord s.word = .unimplemented :=
  (Opcode.ofWord_eq_unimplemented_iff s.word).symm

theorem status_begun_perform (s : State) :
    ((s.begun.perform (Instruction.ofWord s.word)).status = .waitingForKey ↔ s.Waits) ∧
      ((s.begun.perform (Instruction.ofWord s.word)).status = .unimplementedOpcode ↔
        s.Unknown) ∧
      ((s.begun.perform (Instruction.ofWord s.word)).status = .ok ↔ ¬s.Waits ∧ ¬s.Unknown) := by
  have hb : s.begun.lowestKeyDown? = s.lowestKeyDown? := rfl
  have h0 : s.begun.status = .ok := rfl
  rw [waits_iff, unknown_iff, perform_status, hb, h0]
  cases ho : Opcode.ofWord s.word with
  | waitForKey =>
    rcases hk : s.lowestKeyDown? with - | k <;>
      simp [Instruction.ofWord, ho, Status.waitingForKey, Status.unimplementedOpcode, Status.ok]
  | _ => simp [Instruction.ofWord, ho, Status.waitingForKey, Status.unimplementedOpcode, Status.ok]

/-- Without a fault the status is one of three. -/
theorem status_begun_perform_mem (s : State) :
    (s.begun.perform (Instruction.ofWord s.word)).status ∈
      [.ok, .waitingForKey, .unimplementedOpcode] := by
  obtain ⟨hw, hu, ho⟩ := s.status_begun_perform
  by_cases h1 : s.Waits
  · rw [hw.mpr h1]
    simp
  · by_cases h2 : s.Unknown
    · rw [hu.mpr h2]
      simp
    · rw [ho.mpr ⟨h1, h2⟩]
      simp

/-- None of the three is fatal. -/
theorem halted_begun_perform (s : State) :
    (s.begun.perform (Instruction.ofWord s.word)).halted = false := by
  have hnone : ∀ st ∈ [Status.ok, .waitingForKey, .unimplementedOpcode], st.isFatal = false := by
    decide
  exact hnone _ s.status_begun_perform_mem

/-! ### The three cases of a step -/

/-- What a step from `s` to `t` did. -/
inductive StepView (s t : State) : Prop
  | halted (hs : s.halted = true) (ht : t = s)
  | faulted (f : Fault) (hs : s.halted = false) (hf : s.Stops f)
      (ht : t = { s with status := f.status })
  | executed (hs : s.halted = false) (hf : ∀ f, ¬s.Stops f) (hp : s.pc.toNat ≤ 0xFFE)
      (ht : t = (s.begun.perform (Instruction.ofWord s.word)).tickTimers) (hh : t.halted = false)

theorem step_view (s : State) : s.StepView s.step := by
  rcases hs : s.halted with - | -
  · -- `cycle_eq_error_iff` turns the result of the cycle into a statement about the rules
    rcases hc : s.cycle with f | t
    · exact .faulted f hs ((s.cycle_eq_error_iff f).mp hc) (step_of_fault hs hc)
    · have hf : ∀ f, ¬s.Stops f := by
        intro f h
        rw [(s.cycle_eq_error_iff f).mpr h] at hc
        cases hc
      have hp : s.pc.toNat ≤ 0xFFE := by
        rcases Nat.lt_or_ge 0xFFE s.pc.toNat with h | h
        · exact absurd (Stops.fetch h) (hf _)
        · exact h
      have ht : t = (s.begun.perform (Instruction.ofWord s.word)).tickTimers := by
        rw [cycle_eq, if_pos hp] at hc
        rcases hr : s.fault? (Instruction.ofWord s.word) with - | f
        · rw [hr] at hc
          exact (Except.ok.inj hc).symm
        · exact absurd (Stops.execute hp (refuses_of_fault? hr)) (hf f)
      have he : s.step = t := by simp [step, hs, hc]
      have hh : t.halted = false := by
        rw [ht]
        exact s.halted_begun_perform
      rw [he]
      exact .executed hs hf hp ht hh
  · exact .halted hs (step_of_halted hs)

/-- A step does not end a halt. -/
theorem halted_of_step {s : State} (h : s.step.halted = false) : s.halted = false := by
  rcases hs : s.halted with - | -
  · rfl
  · rw [step_of_halted hs, hs] at h
    cases h

/-- A step that does not end halted has executed the word at `pc`. -/
theorem step_executed {s : State} (hs : s.halted = false) (ht : s.step.halted = false) :
    s.pc.toNat ≤ 0xFFE ∧ s.step = (s.begun.perform (Instruction.ofWord s.word)).tickTimers := by
  cases s.step_view with
  | halted h _ =>
    rw [hs] at h
    cases h
  | faulted f _ _ he =>
    rw [he] at ht
    exact absurd (ht.symm.trans f.isFatal_status) Bool.noConfusion
  | executed _ _ hp he _ => exact ⟨hp, he⟩

/-- An instruction that passes the test is executed, and the machine is not halted by it. -/
theorem step_eq_perform {s : State} {i : Instruction} (hs : s.halted = false)
    (hp : s.pc.toNat ≤ 0xFFE) (hi : Instruction.ofWord s.word = i) (hf : s.fault? i = none) :
    s.step = (s.begun.perform i).tickTimers ∧ s.step.halted = false := by
  have hc : s.cycle = .ok (s.begun.perform i).tickTimers := by
    rw [cycle_eq, if_pos hp, hi, hf]
  have he : s.step = (s.begun.perform i).tickTimers := by simp [step, hs, hc]
  refine ⟨he, ?_⟩
  rw [he, ← hi]
  exact s.halted_begun_perform

/-- A step from outside memory is an address fault. -/
theorem step_of_far {s : State} (hs : s.halted = false) (hp : 0xFFE < s.pc.toNat) :
    s.step = s.withStatus Fault.addressFault.status :=
  step_of_fault hs ((s.cycle_eq_error_iff _).mpr (.fetch hp))

/-- The instruction moves `pc` without wrapping. -/
theorem toNat_step_pc {s : State} (hs : s.halted = false) (ht : s.step.halted = false) :
    (s.step.pc.toNat : Int) = s.begun.nextPc (Instruction.ofWord s.word) := by
  obtain ⟨hp, he⟩ := step_executed hs ht
  have hb : s.begun.pc.toNat = s.pc.toNat + 2 := toNat_pc_add_two (by omega)
  rw [he]
  exact toNat_perform_pc (by omega) (by omega) _

/-! ### The outcome of a step -/

/-- **How a cycle ends.**  From a state that is not halted, a step ends with a fatal status exactly
when one of the rules of `Stops` applies, with the fault of that rule and with everything but the
status as it was.  Otherwise it waits, passes over an unknown word, or ends normally. -/
theorem step_outcome (s : State) (hs : s.halted = false) :
    (s.step.halted = true ↔ ∃ f, s.Stops f) ∧
      (∀ f : Fault, s.step.status = f.status ↔ s.Stops f) ∧
      (∀ f : Fault, s.Stops f → s.step = { s with status := f.status }) ∧
      ((∀ f : Fault, ¬s.Stops f) →
        (s.step.status = .waitingForKey ↔ s.Waits) ∧
          (s.step.status = .unimplementedOpcode ↔ s.Unknown) ∧
          (s.step.status = .ok ↔ ¬s.Waits ∧ ¬s.Unknown)) := by
  cases s.step_view with
  | halted h ht =>
    rw [hs] at h
    cases h
  | faulted f h hf ht =>
    -- the fault is unique, so a claim about another fault `g` is one about `f`
    have hst : s.step.status = f.status := congrArg State.status ht
    refine ⟨⟨fun _ => ⟨f, hf⟩, fun _ => ?_⟩, fun g => ⟨fun hg => ?_, fun hg => ?_⟩,
      fun g hg => ?_, fun hn => absurd hf (hn f)⟩
    · rw [halted, hst, Fault.isFatal_status]
    · exact Fault.status_injective (hst.symm.trans hg) ▸ hf
    · rw [hst, hf.unique hg]
    · rw [ht, hf.unique hg]
  | executed h hf hp ht hh =>
    -- no rule applies and no fatal status results
    have hst : s.step.status = (s.begun.perform (Instruction.ofWord s.word)).status := by
      rw [ht]
      rfl
    refine ⟨⟨fun h => ?_, fun ⟨f, h⟩ => absurd h (hf f)⟩,
      fun f => ⟨fun h => ?_, fun h => absurd h (hf f)⟩, fun f h => absurd h (hf f), fun _ => ?_⟩
    · exact absurd (h.symm.trans hh) Bool.noConfusion
    · rw [halted, h, Fault.isFatal_status] at hh
      cases hh
    · rw [hst]
      exact s.status_begun_perform

/-- `F555` at `0x200` with `I` two bytes below the font: the six bytes to store straddle its first
byte. -/
def straddlingStore : State :=
  { State.initial ⟨0, 0⟩ with
    memory := Memory.zero.writeAll 0x200 [0xF5, 0x55]
    index := 0x04E }

theorem step_straddlingStore :
    straddlingStore.halted = false ∧ straddlingStore.Stops .protectedWrite ∧
      straddlingStore.step = { straddlingStore with status := Fault.protectedWrite.status } := by
  have hs : straddlingStore.halted = false := rfl
  have hw : straddlingStore.word = 0xF555 := by
    rw [word_writeAll (i := 0) rfl rfl (by decide) (by decide)]
    decide
  have hm : straddlingStore.MeetsFont (Word.x 0xF555 + 1) :=
    ⟨by decide, 0x050, by decide, by decide, by decide, by decide⟩
  have hf : straddlingStore.Stops .protectedWrite := by
    refine .execute (by decide) (.storeFont ?_ ?_)
    · rw [hw]
      decide
    · rw [hw]
      exact hm
  exact ⟨hs, hf, (step_outcome straddlingStore hs).2.2.1 _ hf⟩

end State

end Chip8
