import Chip8.Proofs.CallStack
import Chip8.Proofs.Cycle.Transfer
import Chip8.Proofs.Run.Action

/-!
A call and the return that meets it at once.  `step_call` and `step_ret` are the two steps, and
`roundTrip` puts them together, for any stack whose pointer leaves room for one address, whether or
not it holds a list.

A return address has twelve bits, while `pc` has sixteen and is not cut.  The two differ for one
call site only, the last word of memory: the address past it is `0x1000`, and the return goes on at
address `0`.  Every other instruction at that word that falls through leaves `pc` at `0x1000`, and
the next cycle is an address fault (`step_step_of_last`).

Main result: `call_then_return`.  `call_then_return_fails` is the exception, in a program that jumps
to the last word of memory.
-/

namespace Chip8.State

variable {s : State}

/-! ### The two steps -/

/-- A call with room on the stack is carried out. -/
theorem step_call (hs : s.halted = false) (hp : s.pc.toNat ≤ 0xFFE)
    (hw : s.word &&& 0xF000 = 0x2000) (hhigh : s.stack.pointer ≤ 15) :
    s.step = (s.begun.perform (.call s.word.nnn)).tickTimers := by
  have hfull : ¬16 ≤ s.stack.pointer := by
    have h15 : (15 : Int32).toInt = 15 := rfl
    have h16 : (16 : Int32).toInt = 16 := rfl
    rw [Int32.le_iff_toInt_le, h15] at hhigh
    rw [Int32.le_iff_toInt_le, h16]
    omega
  have hf : s.fault? (.call s.word.nnn) = none := by
    rw [Option.eq_none_iff_forall_ne_some]
    intro f hf
    exact hfull ((s.fault?_call _ f).mp hf).2
  exact (step_eq_perform hs hp (Instruction.ofWord_of_call hw) hf).1

/-- A return from a stack that is not empty is carried out. -/
theorem step_ret (hs : s.halted = false) (hp : s.pc.toNat ≤ 0xFFE) (hw : s.word = 0x00EE)
    (hempty : ¬s.stack.pointer ≤ 0) : s.step = (s.begun.perform .ret).tickTimers := by
  have ho : Opcode.ofWord s.word = .ret := (Opcode.ofWord_eq_ret_iff _).mpr hw
  have hi : Instruction.ofWord s.word = .ret := by
    simp only [Instruction.ofWord, ho]
  have hf : s.fault? .ret = none := by
    rw [Option.eq_none_iff_forall_ne_some]
    intro f hf
    exact hempty ((s.fault?_ret f).mp hf).2
  exact (step_eq_perform hs hp hi hf).1

/-! ### The round trip -/

/-- After a call to a return, the machine goes on at the return address, and the stack differs from
what it was in one slot at most, which is cleared. -/
theorem roundTrip (hs : s.halted = false) (hp : s.pc.toNat ≤ 0xFFE)
    (hw : s.word &&& 0xF000 = 0x2000) (hlow : 0 ≤ s.stack.pointer) (hhigh : s.stack.pointer ≤ 15)
    (ht : s.word.nnn.val ≤ 0xFFE) (hr : s.memory.readWord s.word.nnn.val = 0x00EE) :
    s.step.status = .ok ∧ s.step.step.status = .ok ∧
      s.step.step.pc = returnAddress s.pc ∧
      s.step.step.stack = s.stack.setSlot s.stack.pointer.toInt 0 ∧
      s.step.step.memory = s.memory := by
  have hcall := step_call hs hp hw hhigh
  have hstatus : s.step.status = .ok := by
    rw [hcall]
    rfl
  have hpc : s.step.pc.toNat = s.word.nnn.val := by
    rw [hcall]
    exact toNat_target _
  have hstack : s.step.stack = s.stack.push (s.pc + 2) := by
    rw [hcall]
    rfl
  have hmemory : s.step.memory = s.memory := by
    rw [hcall]
    rfl
  have hret : s.step.step = (s.step.begun.perform .ret).tickTimers := by
    refine step_ret ?_ ?_ ?_ ?_
    · rw [halted, hstatus]
      rfl
    · rw [hpc]
      exact ht
    · rw [word, hpc, hmemory]
      exact hr
    · rw [hstack]
      exact CallStack.not_pointer_push_le_zero hlow hhigh _
  have hpop : s.step.stack.pop = (returnAddress s.pc, s.stack.setSlot s.stack.pointer.toInt 0) := by
    rw [hstack, CallStack.pop_push hlow hhigh, and_mask_eq_returnAddress]
  refine ⟨hstatus, ?_, ?_, ?_, ?_⟩
  · rw [hret]
    rfl
  · rw [hret]
    exact congrArg Prod.fst hpop
  · rw [hret]
    exact congrArg Prod.snd hpop
  · rw [hret]
    exact hmemory

/-- Falling through the last word of memory leads to an address fault in the next cycle. -/
theorem step_step_of_last (hs : s.step.halted = false) (hp : s.pc.toNat = 0xFFE)
    (hnext : s.step.pc = s.pc + 2) :
    s.step.step = s.step.withStatus Fault.addressFault.status := by
  have hpc : s.step.pc.toNat = 0x1000 := by
    rw [hnext, toNat_pc_add_two (by omega), hp]
  exact step_of_far hs (by omega)

/-- **A call and its return.**  Two steps over a call to a return end without a fault, with the
pointer of the stack as before.  They come back to the instruction after the call, unless the call
is the last word of memory.  From there they go on at address `0`, whereas any step that falls
through the last word is followed by an address fault. -/
theorem call_then_return (hs : s.halted = false) (hp : s.pc.toNat ≤ 0xFFE)
    (hw : s.word &&& 0xF000 = 0x2000) (hlow : 0 ≤ s.stack.pointer) (hhigh : s.stack.pointer ≤ 15)
    (ht : s.word.nnn.val ≤ 0xFFE) (hr : s.memory.readWord s.word.nnn.val = 0x00EE) :
    s.step.status = .ok ∧ s.step.step.status = .ok ∧
      s.step.step.stack.pointer = s.stack.pointer ∧
      (s.step.step.pc.toNat = s.pc.toNat + 2 ↔ s.pc.toNat ≠ 0xFFE) ∧
      (s.pc.toNat = 0xFFE → s.step.step.pc.toNat = 0) ∧
      (∀ t : State, t.pc.toNat = 0xFFE → t.step.halted = false → t.step.pc = t.pc + 2 →
        t.step.step = t.step.withStatus Fault.addressFault.status) := by
  obtain ⟨h1, h2, hpc, hstack, -⟩ := roundTrip hs hp hw hlow hhigh ht hr
  have hn : s.step.step.pc.toNat = (s.pc.toNat + 2) % 4096 := by
    rw [hpc, toNat_returnAddress]
  refine ⟨h1, h2, ?_, ?_, ?_, ?_⟩
  · rw [hstack]
    exact CallStack.pointer_setSlot _ _ _
  · rw [hn]
    omega
  · intro he
    rw [hn, he]
  · intro t hlast hh hnext
    exact step_step_of_last hh hlast hnext

/-- A call in the last word but one to a return in the last word, with fifteen calls pending and an
address left over in the slot above them. -/
def deepCall : State :=
  { State.initial ⟨0, 0⟩ with
    memory := Memory.initial.writeAll 0xFFC [0x2F, 0xFE, 0x00, 0xEE]
    pc := 0xFFC
    stack := ⟨Vector.replicate 16 0x300, 15⟩ }

/-- The return comes back to the last word. -/
theorem call_then_return_deepCall :
    deepCall.halted = false ∧ deepCall.word = 0x2FFE ∧ deepCall.memory.readWord 0xFFE = 0x00EE ∧
      deepCall.step.step.status = .ok ∧ deepCall.step.step.stack.pointer = 15 ∧
      deepCall.step.step.pc.toNat = 0xFFE := by
  have hw : deepCall.word = 0x2FFE := by
    rw [word_writeAll (i := 0) rfl rfl (by decide) (by decide)]
    decide
  have hr : deepCall.memory.readWord 0xFFE = 0x00EE := by
    have hread := Memory.readWord_writeAll Memory.initial 0xFFC [0x2F, 0xFE, 0x00, 0xEE] 2
      (by decide) (by decide)
    exact hread.trans (by decide)
  obtain ⟨-, h2, hpointer, hback, -, -⟩ := call_then_return (s := deepCall) rfl (by decide)
    (by rw [hw]; decide) (by decide) (by decide) (by rw [hw]; decide) (by rw [hw]; exact hr)
  exact ⟨rfl, hw, hr, h2, hpointer, hback.mpr (by decide)⟩

/-! ### A call in the last word of memory -/

/-- A program that stores `220A` in the last word of memory and jumps there, with a return at
`0x20A`; it has run up to the call. -/
def lastWordCall : State :=
  (loaded [0xAF, 0xFE, 0x60, 0x22, 0x61, 0x0A, 0xF1, 0x55, 0x1F, 0xFE, 0x00, 0xEE]).follow
    (List.replicate 5 .step)

/-- **The last word is the exception.**  The call in the last word of memory meets every condition,
and does not come back to `0x1000`.  The machine goes on at address `0`, where it takes the word for
one of no kind, and no fault is raised. -/
theorem call_then_return_fails :
    lastWordCall.halted = false ∧ lastWordCall.pc.toNat = 0xFFE ∧
      lastWordCall.word = 0x220A ∧ lastWordCall.stack.pointer = 0 ∧
      lastWordCall.memory.readWord 0x20A = 0x00EE ∧
      lastWordCall.step.step.pc.toNat ≠ lastWordCall.pc.toNat + 2 ∧
      lastWordCall.step.step.step.status ≠ Fault.addressFault.status := by
  obtain ⟨hs, hp, hw, h0, hr, hzero⟩ : lastWordCall.halted = false ∧
      lastWordCall.pc = 0xFFE ∧ lastWordCall.word = 0x220A ∧ lastWordCall.stack.pointer = 0 ∧
      lastWordCall.memory.readWord 0x20A = 0x00EE ∧ lastWordCall.memory.readWord 0 = 0 := by
    decide +kernel
  obtain ⟨-, h2, hpc, -, hmemory⟩ := roundTrip hs (by rw [hp]; decide) (by rw [hw]; decide)
    (by rw [h0]; decide) (by rw [h0]; decide) (by rw [hw]; decide) (by rw [hw]; exact hr)
  have hback : lastWordCall.step.step.pc = 0 := by
    rw [hpc, hp]
    decide
  -- the word at address `0` is of no kind
  have hnext : lastWordCall.step.step.step.status = .unimplementedOpcode := by
    have hi : Instruction.ofWord lastWordCall.step.step.word = .unimplemented := by
      rw [word, hback, hmemory]
      exact (congrArg Instruction.ofWord hzero).trans (by decide)
    have hhalted : lastWordCall.step.step.halted = false := by
      rw [halted, h2]
      rfl
    have hf : lastWordCall.step.step.fault? .unimplemented = none :=
      fault?_of_no_access (by decide) (fun _ => by simp) rfl
    rw [(step_eq_perform hhalted (by rw [hback]; decide) hi hf).1]
    rfl
  refine ⟨hs, by rw [hp]; rfl, hw, h0, hr, ?_, ?_⟩
  · rw [hback, hp]
    decide
  · rw [hnext]
    decide

end Chip8.State
