import Chip8.Proofs.Cycle.Outcome
import Chip8.Proofs.Execution.Edit

/-!
What a step looks at.  A step and an edit of memory, display, keypad or random key commute as long
as the word at `pc` does not look at what is edited (`step_edit`), also where the step faults: the
test for faults looks at `I` and the stack alone.

Main result: `step_reads` says which words look at what.  The status before a step is looked at only
to see whether the machine is halted; the random key by `CXNN`; the keypad by `EX9E`, `EXA1` and
`FX0A`; the display by `00E0` and `DXYN`; and of memory the two bytes of the word and those from `I`
on that the word reaches (`Word.reach`).
-/

namespace Chip8

/-- How many bytes from `I` on a word reads or stores. -/
def Word.reach (w : Word) : Nat :=
  if w &&& 0xF000 = 0xD000 then w.n.val
  else if w &&& 0xF0FF = 0xF033 then 3
  else if w &&& 0xF0FF = 0xF055 ∨ w &&& 0xF0FF = 0xF065 then w.x.val + 1
  else 0

theorem Instruction.access_length_ofWord (w : Word) : (ofWord w).access.length = w.reach := by
  have hdraw := Opcode.ofWord_eq_iff (show ⟨0xF000, 0xD000, .draw⟩ ∈ Opcode.patterns by decide) w
  have hbcd := Opcode.ofWord_eq_iff
    (show ⟨0xF0FF, 0xF033, .bcdConversion⟩ ∈ Opcode.patterns by decide) w
  have hstore := Opcode.ofWord_eq_iff
    (show ⟨0xF0FF, 0xF055, .storeRegisters⟩ ∈ Opcode.patterns by decide) w
  have hload := Opcode.ofWord_eq_iff
    (show ⟨0xF0FF, 0xF065, .loadRegisters⟩ ∈ Opcode.patterns by decide) w
  simp only [Word.reach, ← hdraw, ← hbcd, ← hstore, ← hload]
  cases ho : Opcode.ofWord w with
  | _ => simp [ofWord, ho, access]

namespace State

variable {s : State} {e : Edit}

/-! ### Edits a step does not see -/

theorem cycle_edit (hword : s.pc.toNat ≤ 0xFFE → (s.edit e).word = s.word)
    (hunseen : s.pc.toNat ≤ 0xFFE → s.fault? (Instruction.ofWord s.word) = none →
      e.Unseen s (Instruction.ofWord s.word)) :
    (s.edit e).cycle = s.cycle.map (edit · e) := by
  have hpc : (s.edit e).pc = s.pc := rfl
  rw [cycle_eq, cycle_eq, hpc]
  by_cases hp : s.pc.toNat ≤ 0xFFE
  · rw [if_pos hp, if_pos hp, hword hp, fault?_edit]
    rcases hf : s.fault? (Instruction.ofWord s.word) with - | f
    · -- `begun` leaves alone what an instruction could see of the edit
      have h := hunseen hp hf
      have hb : e.Unseen s.begun (Instruction.ofWord s.word) :=
        ⟨h.rng, h.keypad, h.display, h.read, h.store⟩
      show Except.ok ((s.begun.edit e).perform (Instruction.ofWord s.word)).tickTimers = _
      rw [perform_edit hb]
      rfl
    · rfl
  · rw [if_neg hp, if_neg hp]
    rfl

/-- A step and an edit that the word at `pc` does not see commute. -/
theorem step_edit (hword : s.pc.toNat ≤ 0xFFE → (s.edit e).word = s.word)
    (hunseen : s.pc.toNat ≤ 0xFFE → s.fault? (Instruction.ofWord s.word) = none →
      e.Unseen s (Instruction.ofWord s.word)) :
    (s.edit e).step = s.step.edit e := by
  have hh : (s.edit e).halted = s.halted := rfl
  rw [step, step, hh, cycle_edit hword hunseen]
  split
  · rfl
  · rcases s.cycle with f | t <;> rfl

/-! ### Edits of one part -/

/-- The word at `pc`, if it can be fetched, is not of the given form. -/
def Avoids (s : State) (form : Word → Prop) : Prop :=
  ∀ w, s.currentWord? = some w → ¬form w

theorem Avoids.word {form : Word → Prop} (h : s.Avoids form) (hp : s.pc.toNat ≤ 0xFFE) :
    ¬form s.word :=
  h s.word (by rw [currentWord?_eq, if_pos hp])

theorem step_withStatus (hs : s.halted = false) {status : Status} (h : status.isFatal = false) :
    (s.withStatus status).step = s.step := by
  have hh : (s.withStatus status).halted = false := h
  have hc : (s.withStatus status).cycle = s.cycle := by
    rw [cycle_eq, cycle_eq]
    rfl
  rw [step, step, hh, hs, hc]
  rfl

theorem step_withRng (rng : Key) (h : s.Avoids fun w => w &&& 0xF000 = 0xC000) :
    ({ s with rng := rng } : State).step = { s.step with rng := rng } := by
  refine step_edit (e := { rng := fun _ => rng }) (fun _ => rfl) fun hp _ => ?_
  refine ⟨fun ho => ?_, fun _ => rfl, fun _ => rfl, fun _ _ => rfl, rfl⟩
  rw [Instruction.opcode_ofWord] at ho
  exact absurd ((Opcode.ofWord_eq_iff (by decide) _).mp ho) (h.word hp)

theorem step_withKeypad (keypad : Vector Bool 16)
    (h : s.Avoids fun w => w &&& 0xF0FF ∈ [0xE09E, 0xE0A1, 0xF00A]) :
    ({ s with keypad := keypad } : State).step = { s.step with keypad := keypad } := by
  refine step_edit (e := { keypad := fun _ => keypad }) (fun _ => rfl) fun hp _ => ?_
  refine ⟨fun _ => rfl, fun ho => ?_, fun _ => rfl, fun _ _ => rfl, rfl⟩
  rw [Instruction.opcode_ofWord] at ho
  exact absurd (Opcode.and_mask_mem (by decide) ho) (h.word hp)

theorem step_withDisplay (display : Display)
    (h : s.Avoids fun w => w = 0x00E0 ∨ w &&& 0xF000 = 0xD000) :
    ({ s with display := display } : State).step = { s.step with display := display } := by
  refine step_edit (e := { display := fun _ => display }) (fun _ => rfl) fun hp _ => ?_
  refine ⟨fun _ => rfl, fun _ => rfl, fun ho => ?_, fun _ _ => rfl, rfl⟩
  rw [Instruction.opcode_ofWord] at ho
  rcases ho with ho | ho
  · exact absurd (.inl ((Opcode.ofWord_eq_clearScreen_iff _).mp ho)) (h.word hp)
  · exact absurd (.inr ((Opcode.ofWord_eq_iff (by decide) _).mp ho)) (h.word hp)

theorem step_write {a : Nat} (v : UInt8) (ha : a ≠ s.pc.toNat) (ha' : a ≠ s.pc.toNat + 1)
    (h : s.Avoids fun w => s.index.toNat ≤ a ∧ a < s.index.toNat + w.reach) :
    ({ s with memory := s.memory.write a v } : State).step =
      { s.step with memory := s.step.memory.write a v } := by
  refine step_edit (e := { memory := fun m => m.write a v }) (fun hp => ?_) fun hp hf => ?_
  · show Memory.joinBytes _ _ = Memory.joinBytes _ _
    rw [Memory.joinBytes_inj]
    exact ⟨(Memory.read_write s.memory a s.pc.toNat v (by omega)).trans (if_neg ha),
      (Memory.read_write s.memory a (s.pc.toNat + 1) v (by omega)).trans (if_neg ha')⟩
  · have hout := h.word hp
    have hlen := (s.length_stores_le (Instruction.ofWord s.word))
    simp only [← Instruction.access_length_ofWord] at hout
    refine ⟨fun _ => rfl, fun _ => rfl, fun _ => rfl, fun k hk => ?_, ?_⟩
    · have hfit := fits_of_fault?_eq_none hf (by omega)
      exact (Memory.read_write _ _ _ _ (by omega)).trans (if_neg (by omega))
    · exact Memory.write_writeAll_comm _ _ _ (by omega)

/-- **What a step looks at.**  From a state that is not halted, a step does not tell one status from
another; and to replace the random key, the keypad, the display or a byte of memory before the step
is to replace it after the step, unless the word at `pc` is one that looks at it. -/
theorem step_reads (s : State) (hs : s.halted = false) :
    (∀ status : Status, status.isFatal = false → (s.withStatus status).step = s.step) ∧
      (∀ rng, (s.Avoids fun w => w &&& 0xF000 = 0xC000) →
        ({ s with rng := rng } : State).step = { s.step with rng := rng }) ∧
      (∀ keypad, (s.Avoids fun w => w &&& 0xF0FF ∈ [0xE09E, 0xE0A1, 0xF00A]) →
        ({ s with keypad := keypad } : State).step = { s.step with keypad := keypad }) ∧
      (∀ display, (s.Avoids fun w => w = 0x00E0 ∨ w &&& 0xF000 = 0xD000) →
        ({ s with display := display } : State).step = { s.step with display := display }) ∧
      (∀ a v, a ≠ s.pc.toNat → a ≠ s.pc.toNat + 1 →
        (s.Avoids fun w => s.index.toNat ≤ a ∧ a < s.index.toNat + w.reach) →
        ({ s with memory := s.memory.write a v } : State).step =
          { s.step with memory := s.step.memory.write a v }) :=
  ⟨fun _ => step_withStatus hs, step_withRng, step_withKeypad, step_withDisplay,
    fun _ v => step_write v⟩

/-- `F155` at `0x200`, to store `V0` and `V1` at `0x300` and `0x301`. -/
def shortStore : State :=
  { State.initial ⟨0, 0⟩ with
    memory := Memory.zero.writeAll 0x200 [0xF1, 0x55]
    index := 0x300 }

/-- The store does not look at the byte behind the two it stores, nor at keys or random numbers. -/
theorem step_reads_shortStore :
    shortStore.halted = false ∧ shortStore.currentWord? = some 0xF155 ∧
      (∀ v, ({ shortStore with memory := shortStore.memory.write 0x302 v } : State).step =
        { shortStore.step with memory := shortStore.step.memory.write 0x302 v }) ∧
      (∀ keypad, ({ shortStore with keypad := keypad } : State).step =
        { shortStore.step with keypad := keypad }) ∧
      (∀ rng, ({ shortStore with rng := rng } : State).step =
        { shortStore.step with rng := rng }) := by
  have hs : shortStore.halted = false := rfl
  have hp : shortStore.pc.toNat ≤ 0xFFE := show (0x200 : UInt16).toNat ≤ 0xFFE by decide
  have hw : shortStore.currentWord? = some 0xF155 := by
    rw [currentWord?_eq, if_pos hp, word_writeAll (i := 0) rfl rfl (by decide) (by decide)]
    decide
  have havoids {form : Word → Prop} (h : ¬form 0xF155) : shortStore.Avoids form := by
    intro w hcurrent
    rw [hw] at hcurrent
    exact Option.some.inj hcurrent ▸ h
  obtain ⟨-, hrng, hkeypad, -, hwrite⟩ := step_reads shortStore hs
  refine ⟨hs, hw, fun v => hwrite 0x302 v (by decide) (by decide) (havoids ?_),
    fun keypad => hkeypad keypad (havoids (by decide)), fun rng => hrng rng (havoids (by decide))⟩
  show ¬((0x300 : UInt16).toNat ≤ 0x302 ∧ 0x302 < (0x300 : UInt16).toNat + Word.reach 0xF155)
  decide

end State

end Chip8
