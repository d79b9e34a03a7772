import Chip8.Proofs.CallStack
import Chip8.Proofs.Cycle.Transfer
import Chip8.Proofs.Run.Action

/-!
States that can arise.  `State.WellFormed` is an invariant of runs: the call stack holds a list of
twelve bit addresses, `pc` is at most `0x10FE`, and the status has a name.

The bound on `pc` is the reach of a jump with offset: `0xFFF`, the highest target, and `0xFF`, the
highest register.  Every other instruction starts at `0xFFE` or below and goes on at most four
bytes further.  So `pc` stays far below the wrap of a 16 bit sum.

Main result: `reachable_bounds` states the invariant of every reachable state field by field,
together with what follows for the sums that move `pc` in the next cycle.
-/

namespace Chip8

/-- Every slot holds twelve bits if the addresses of the list do. -/
theorem CallStack.Holds.slotAt_le {s : CallStack} {l : List UInt16} (h : s.Holds l)
    (hl : ∀ a ∈ l, a ≤ 0xFFF) (i : Int) : s.slotAt i ≤ 0xFFF := by
  rw [slotAt, h.slots]
  rcases ha : l[Cell.nearest 16 i]? with - | a
  · exact UInt16.zero_le
  · exact hl a (List.mem_of_getElem? ha)

namespace State

/-- What holds of every state of a run. -/
structure WellFormed (s : State) : Prop where
  stack : ∃ l, s.stack.Holds l ∧ ∀ a ∈ l, a ≤ 0xFFF
  pc : s.pc.toNat ≤ 0x10FE
  status : s.status.code ≤ 6

theorem wellFormed_initial (rng : Key) : (State.initial rng).WellFormed where
  stack := ⟨[], CallStack.holds_empty, fun a h => absurd h List.not_mem_nil⟩
  pc := show (0x200 : UInt16).toNat ≤ 0x10FE by decide
  status := show (0 : UInt8) ≤ 6 by decide

variable {s : State}

/-! ### The sums that move `pc` -/

/-- The fetch moves `pc` without wrapping. -/
theorem WellFormed.toNat_fetch_pc (h : s.WellFormed) :
    s.fetch.2.pc.toNat = s.pc.toNat + 2 := by
  have hpc := h.pc
  exact toNat_pc_add_two (by omega)

/-! ### The invariant is kept -/

/-- The list stays one of twelve bit addresses: what a call pushes is masked. -/
theorem WellFormed.stack_step (h : s.WellFormed) :
    ∃ l, s.step.stack.Holds l ∧ ∀ a ∈ l, a ≤ 0xFFF := by
  obtain ⟨l, hl, hle⟩ := h.stack
  have hv := list_view hl
  generalize s.transfer? = o at hv
  cases hv with
  | call hstack =>
    refine ⟨_, hstack, fun a ha => ?_⟩
    rcases List.mem_append.mp ha with ha | ha
    · exact hle a ha
    · rw [List.mem_singleton.mp ha, ← and_mask_eq_returnAddress]
      exact UInt16.and_le_right
  | ret rest a hrest hpc hstack =>
    refine ⟨rest, hstack, fun b hb => hle b ?_⟩
    rw [hrest]
    exact List.mem_append_left _ hb
  | other hstack =>
    rw [hstack]
    exact ⟨l, hl, hle⟩

/-- A return reads a slot, so it goes on at a twelve bit address. -/
theorem WellFormed.pc_step (h : s.WellFormed) : s.step.pc.toNat ≤ 0x10FE := by
  cases s.step_view with
  | halted hs ht =>
    rw [ht]
    exact h.pc
  | faulted f hs hf ht =>
    rw [ht]
    exact h.pc
  | executed hs hf hp ht hh =>
    -- the word fetched lies in memory, so the instruction starts at `0x1000` or below
    have hb : s.begun.pc.toNat = s.pc.toNat + 2 := toNat_pc_add_two (by omega)
    have hpop : s.begun.stack.pop.1.toNat ≤ 0xFFF := by
      obtain ⟨l, hl, hle⟩ := h.stack
      exact UInt16.le_iff_toNat_le.mp (hl.slotAt_le hle _)
    have hle := nextPc_le (s := s.begun) (by omega) hpop (Instruction.ofWord s.word)
    rw [← toNat_step_pc hs hh] at hle
    omega

/-- A step ends with a fault, or with one of the three other statuses. -/
theorem WellFormed.status_step (h : s.WellFormed) : s.step.status.code ≤ 6 := by
  cases s.step_view with
  | halted hs ht =>
    rw [ht]
    exact h.status
  | faulted f hs hf ht =>
    have hst : s.step.status = f.status := congrArg State.status ht
    rw [hst]
    cases f <;> decide
  | executed hs hf hp ht hh =>
    have hst : s.step.status = (s.begun.perform (Instruction.ofWord s.word)).status := by
      rw [ht]
      rfl
    have hle : ∀ st ∈ [Status.ok, .waitingForKey, .unimplementedOpcode], st.code ≤ 6 := by decide
    rw [hst]
    exact hle _ s.status_begun_perform_mem

theorem WellFormed.step (h : s.WellFormed) : s.step.WellFormed :=
  ⟨h.stack_step, h.pc_step, h.status_step⟩

theorem WellFormed.act (h : s.WellFormed) (a : Action) : (s.act a).WellFormed := by
  by_cases ha : a = .step
  · rw [ha]
    exact h.step
  · obtain ⟨memory, keypad, he⟩ := s.act_eq_of_ne_step ha
    rw [he]
    exact ⟨h.stack, h.pc, h.status⟩

/-- A well formed state is halted by a fault. -/
theorem WellFormed.fault_of_halted (h : s.WellFormed) (hs : s.halted = true) :
    ∃ f : Fault, s.status = f.status := by
  have hlow : 3 ≤ s.status.code.toNat := UInt8.le_iff_toNat_le.mp (of_decide_eq_true hs)
  have hhigh : s.status.code.toNat ≤ 6 := UInt8.le_iff_toNat_le.mp h.status
  have hstatus {f : Fault} (he : s.status.code.toNat = f.status.code.toNat) :
      s.status = f.status := congrArg Status.mk (UInt8.toNat_inj.mp he)
  have hcode : s.status.code.toNat = 3 ∨ s.status.code.toNat = 4 ∨ s.status.code.toNat = 5 ∨
      s.status.code.toNat = 6 := by omega
  rcases hcode with h3 | h4 | h5 | h6
  · exact ⟨.stackUnderflow, hstatus h3⟩
  · exact ⟨.stackOverflow, hstatus h4⟩
  · exact ⟨.addressFault, hstatus h5⟩
  · exact ⟨.protectedWrite, hstatus h6⟩

theorem Reachable.wellFormed {rng : Key} (h : Reachable rng s) : s.WellFormed :=
  h.induct (wellFormed_initial rng) fun _ a hs => hs.act a

/-! ### Reachable states field by field -/

/-- **Reachable states.**  From the initial state of any random key, after any actions and runs of
cycles: the stack pointer lies between 0 and 16, the slots below it hold twelve bits and the others
zero, `pc` is at most `0x10FE` and the status is one of the seven with a name.  The fetch of the
next cycle does not wrap, and neither does the instruction if it is carried out. -/
theorem reachable_bounds (rng : Key) (s : State) (h : Reachable rng s) :
    (0 ≤ s.stack.pointer ∧ s.stack.pointer ≤ 16) ∧
      (∀ (k : Nat) (hk : k < 16), (k : Int) < s.stack.pointer.toInt → s.stack.slots[k] ≤ 0xFFF) ∧
      (∀ (k : Nat) (hk : k < 16), s.stack.pointer.toInt ≤ k → s.stack.slots[k] = 0) ∧
      s.pc ≤ 0x10FE ∧
      s.status.code ≤ 6 ∧
      s.fetch.2.pc.toNat = s.pc.toNat + 2 ∧
      (s.halted = false → s.step.halted = false →
        (s.step.pc.toNat : Int) = s.begun.nextPc (Instruction.ofWord s.word)) := by
  have hw := h.wellFormed
  obtain ⟨l, hl, hle⟩ := hw.stack
  have hlen := hl.fits
  refine ⟨⟨?_, ?_⟩, fun k hk hlow => ?_, fun k hk hhigh => ?_, ?_, hw.status, hw.toNat_fetch_pc,
    toNat_step_pc⟩
  · have h0 : (0 : Int32).toInt = 0 := rfl
    rw [Int32.le_iff_toInt_le, hl.pointer, h0]
    omega
  · have h16 : (16 : Int32).toInt = 16 := rfl
    rw [Int32.le_iff_toInt_le, hl.pointer, h16]
    omega
  · rw [hl.pointer] at hlow
    rw [hl.slots k hk, List.getElem?_eq_getElem (by omega), Option.getD_some]
    exact hle _ (List.getElem_mem _)
  · rw [hl.pointer] at hhigh
    rw [hl.slots k hk, List.getElem?_eq_none (by omega), Option.getD_none]
  · exact UInt16.le_iff_toNat_le.mpr hw.pc

/-- `60FF` executed, and `BFFF` next: the longest jump with offset. -/
def farJump : State :=
  (loaded [0x60, 0xFF, 0xBF, 0xFF]).step

theorem farJump_eq :
    farJump = ((loaded [0x60, 0xFF, 0xBF, 0xFF]).begun.perform (.set 0 0xFF)).tickTimers :=
  (step_loaded (by decide) (by decide) (by decide) (by decide)).1

/-- The far jump does not wrap, and it reaches the bound on `pc`. -/
theorem reachable_bounds_farJump :
    Reachable ⟨0, 0⟩ farJump ∧ farJump.halted = false ∧ farJump.step.halted = false ∧
      farJump.step.pc.toNat = 0x10FE := by
  have hload := loaded_eq [0x60, 0xFF, 0xBF, 0xFF] (by decide)
  have hreach : Reachable ⟨0, 0⟩ farJump := (Reachable.initial.act _).act .step
  have heq := farJump_eq
  rw [hload] at heq
  have hi : Instruction.ofWord farJump.word = .jumpWithOffset 0xFFF := by
    rw [heq, word_writeAll (i := 2) rfl rfl (by decide) (by decide)]
    decide
  have hs : farJump.halted = false := by
    rw [heq]
    rfl
  have hstep : farJump.step.halted = false := by
    rw [heq] at hi hs ⊢
    have hp : (0x202 : UInt16).toNat ≤ 0xFFE := by decide
    have hf : Memory.accessFault? (Int32.ofNat 0) (Int32.ofNat 0) false = none := by decide
    exact (step_eq_perform hs hp hi hf).2
  obtain ⟨-, -, -, -, -, -, hpc⟩ := reachable_bounds ⟨0, 0⟩ farJump hreach
  refine ⟨hreach, hs, hstep, ?_⟩
  have hsum := hpc hs hstep
  have hv : farJump.begun.register offsetRegister = 0xFF := by
    rw [heq]
    rfl
  rw [hi, nextPc, hv] at hsum
  exact Int.ofNat.inj hsum

end State

end Chip8
