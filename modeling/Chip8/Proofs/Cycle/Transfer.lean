import Chip8.Proofs.CallStack
import Chip8.Proofs.Cycle.Outcome

/-!
Calls and returns.  `State.transfer?` says whether the next step is a call or a return that is
carried out, and `stack_view` what the step then does to the call stack:

* a call pushes the address past its word, and the stack was not full;
* a return pops the stack, which was not empty, and goes on at the address popped;
* any other step leaves the stack as it was.

`list_view` says the same of a stack that holds a list: a call appends a return address, a return
takes the last one off and goes on there.
-/

namespace Chip8

/-- A step that moves the call stack. -/
inductive Transfer
  /-- A call from the instruction at `site`. -/
  | call (site : UInt16)
  /-- A return. -/
  | ret
  deriving DecidableEq, Repr

namespace State

/-- The call or return that the next step carries out.  One that faults is not carried out. -/
def transfer? (s : State) : Option Transfer :=
  if s.halted ∨ s.step.halted then none
  else if s.word &&& 0xF000 = 0x2000 then some (.call s.pc)
  else if s.word = 0x00EE then some .ret
  else none

/-- What the next step does to the call stack. -/
inductive StackView (s : State) : Option Transfer → Prop
  | call (hfull : ¬16 ≤ s.stack.pointer) (hpc : s.pc.toNat ≤ 0xFFE)
      (hstack : s.step.stack = s.stack.push (s.pc + 2)) : StackView s (some (.call s.pc))
  | ret (hempty : ¬s.stack.pointer ≤ 0) (hpc : s.step.pc = s.stack.pop.1)
      (hstack : s.step.stack = s.stack.pop.2) : StackView s (some .ret)
  | other (hstack : s.step.stack = s.stack) : StackView s none

theorem transfer?_of_halted {s : State} (h : s.halted = true ∨ s.step.halted = true) :
    s.transfer? = none :=
  if_pos h

theorem transfer?_of_executed {s : State} (hs : s.halted = false) (ht : s.step.halted = false) :
    s.transfer? =
      if s.word &&& 0xF000 = 0x2000 then some (.call s.pc)
      else if s.word = 0x00EE then some .ret
      else none := by
  refine if_neg ?_
  rw [hs, ht]
  simp

theorem stack_view (s : State) : s.StackView s.transfer? := by
  cases s.step_view with
  | halted hs ht =>
    rw [transfer?_of_halted (.inl hs)]
    exact .other (by rw [ht])
  | faulted f hs hf ht =>
    -- the step ends halted, so nothing was carried out
    have hh : s.step.halted = true := by
      rw [ht]
      exact f.isFatal_status
    rw [transfer?_of_halted (.inr hh)]
    exact .other (by rw [ht])
  | executed hs hf hp ht hh =>
    have hpc : s.step.pc = (s.begun.perform (Instruction.ofWord s.word)).pc := by
      rw [ht]
      rfl
    have hstack : s.step.stack = (s.begun.perform (Instruction.ofWord s.word)).stack := by
      rw [ht]
      rfl
    rw [perform_pc] at hpc
    rw [perform_stack] at hstack
    rw [transfer?_of_executed hs hh]
    by_cases hcall : s.word &&& 0xF000 = 0x2000
    · have ho : Opcode.ofWord s.word = .call := (Opcode.ofWord_eq_iff (by decide) _).mpr hcall
      rw [if_pos hcall]
      -- a full stack would have been a fault
      refine .call (fun hfull => hf _ (.execute hp (.call hcall hfull))) hp ?_
      simpa only [Instruction.ofWord, ho, begun_pc, begun_stack] using hstack
    · by_cases hret : s.word = 0x00EE
      · have ho : Opcode.ofWord s.word = .ret := (Opcode.ofWord_eq_ret_iff _).mpr hret
        rw [if_neg hcall, if_pos hret]
        -- and so would have been an empty one
        refine .ret (fun hempty => hf _ (.execute hp (.ret hret hempty))) ?_ ?_
        · simpa only [Instruction.ofWord, ho, begun_pc, begun_stack] using hpc
        · simpa only [Instruction.ofWord, ho, begun_pc, begun_stack] using hstack
      · rw [if_neg hcall, if_neg hret]
        refine .other ?_
        rw [← Opcode.ofWord_eq_iff (show ⟨0xF000, 0x2000, .call⟩ ∈ Opcode.patterns by decide)]
          at hcall
        rw [← Opcode.ofWord_eq_ret_iff] at hret
        rw [hstack]
        cases ho : Opcode.ofWord s.word with
        | call => exact absurd ho hcall
        | ret => exact absurd ho hret
        | _ => simp only [Instruction.ofWord, ho, begun_stack]

/-! ### Stacks that hold a list -/

/-- The address a call pushes: the one past its word, modulo the size of memory. -/
def returnAddress (site : UInt16) : UInt16 :=
  UInt16.ofNat ((site.toNat + 2) % 4096)

theorem toNat_returnAddress (site : UInt16) :
    (returnAddress site).toNat = (site.toNat + 2) % 4096 :=
  UInt16.toNat_ofNat_of_lt (Nat.lt_trans (Nat.mod_lt _ (by decide)) (by decide))

/-- Cutting to twelve bits is the remainder modulo the size of memory. -/
theorem and_mask_eq_returnAddress (site : UInt16) :
    (site + 2) &&& 0xFFF = returnAddress site := by
  have hmask : (0xFFF : UInt16).toNat = 2 ^ 12 - 1 := rfl
  have h2 : (2 : UInt16).toNat = 2 := rfl
  apply UInt16.toNat_inj.mp
  rw [toNat_returnAddress, UInt16.toNat_and, hmask, Nat.and_two_pow_sub_one_eq_mod,
    UInt16.toNat_add, h2]
  omega

/-- What a move from `s` to `t` did to the list the stack holds. -/
inductive ListView (s t : State) (l : List UInt16) : Option Transfer → Prop
  | call (hstack : t.stack.Holds (l ++ [returnAddress s.pc])) : ListView s t l (some (.call s.pc))
  | ret (rest : List UInt16) (a : UInt16) (hl : l = rest ++ [a]) (hpc : t.pc = a)
      (hstack : t.stack.Holds rest) : ListView s t l (some .ret)
  | other (hstack : t.stack = s.stack) : ListView s t l none

theorem list_view {s : State} {l : List UInt16} (h : s.stack.Holds l) :
    s.ListView s.step l s.transfer? := by
  have hv := s.stack_view
  generalize s.transfer? = o at hv ⊢
  cases hv with
  | call hfull hpc hstack =>
    have hlen : l.length < 16 := by
      have hfits := h.fits
      rw [h.le_pointer_iff] at hfull
      omega
    refine .call ?_
    rw [hstack, ← and_mask_eq_returnAddress]
    exact h.push hlen
  | ret hempty hpc hstack =>
    rw [h.pointer_le_zero_iff] at hempty
    obtain ⟨rest, a, hl⟩ := (List.eq_nil_or_concat l).resolve_left hempty
    rw [List.concat_eq_append] at hl
    subst hl
    refine .ret rest a rfl ?_ ?_
    · rw [hpc]
      exact h.pop.1
    · rw [hstack]
      exact h.pop.2
  | other hstack => exact .other hstack

end State

end Chip8
