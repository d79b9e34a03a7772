import Chip8.Proofs.Cycle.OwnWord
import Chip8.Proofs.Execution.Lanes

/-!
Cycles on whole arrays.  `State.stepLanes` runs a cycle as a machine does that works on all elements
of an array at once: the two bytes of the word, the slots of the call stack, and every lane of a
draw, a block store and a block load are asked for, whether they lie in their array or not.
`State.step?` runs a cycle by reads and stores that fail outside their array, and makes only those
that count.

The test for faults looks at `I`, the stack pointer and the word; it comes before any other access,
and the test of `pc` before the fetch.  So everything after it can count on the array bounds.

Main result: `step_lanes` — with a stack pointer between 0 and 16, both agree with `State.step` on
every state, whatever stray reads answer.
-/

namespace Chip8

/-- Only `FX55` spells a block store. -/
theorem Instruction.ofWord_eq_storeRegisters {w : Word} {x : Nibble}
    (h : Instruction.ofWord w = .storeRegisters x) : w &&& 0xF0FF = 0xF055 ∧ w.x = x := by
  have ho : Opcode.ofWord w = .storeRegisters := by
    rw [← Instruction.opcode_ofWord, h]
    rfl
  refine ⟨(Opcode.ofWord_eq_iff (by decide) w).mp ho, ?_⟩
  simp only [Instruction.ofWord, ho, Instruction.storeRegisters.injEq] at h
  exact h

namespace State

/-! ### A cycle by lanes and by accesses that can fail -/

/-- The word at `pc`, each byte a read of its own. -/
def fetchLanes (s : State) (strays : Strays) : Word :=
  Memory.joinBytes ((s.memory.read? s.pc.toNat).getD (strays.fetch 0))
    ((s.memory.read? (s.pc + 1).toNat).getD (strays.fetch 1))

/-- One cycle, lane by lane. -/
def stepLanes (s : State) (strays : Strays) : State :=
  if s.halted then
    s
  else if 0xFFE < s.pc.toNat then
    s.withStatus Fault.addressFault.status
  else
    let i := Instruction.ofWord (s.fetchLanes strays)
    match s.begun.fault? i with
    | some f => s.withStatus f.status
    | none => (s.begun.performLanes strays i).tickTimers

/-- The word at `pc`, if both its bytes can be read. -/
def fetch? (s : State) : Option Word :=
  (s.memory.read? s.pc.toNat).bind fun high =>
    (s.memory.read? (s.pc + 1).toNat).map fun low => Memory.joinBytes high low

/-- One cycle by accesses that can fail. -/
def step? (s : State) : Option State :=
  if s.halted then
    some s
  else if 0xFFE < s.pc.toNat then
    some (s.withStatus Fault.addressFault.status)
  else
    s.fetch?.bind fun w =>
      match s.begun.fault? (Instruction.ofWord w) with
      | some f => some (s.withStatus f.status)
      | none => (s.begun.perform? (Instruction.ofWord w)).map tickTimers

/-! ### The fetch -/

variable {s : State}

/-- Where the test of `pc` passes, both bytes of the word lie in memory. -/
theorem read?_pc (hp : s.pc.toNat ≤ 0xFFE) :
    s.memory.read? s.pc.toNat = some (s.memory.read s.pc.toNat) ∧
      s.memory.read? (s.pc + 1).toNat = some (s.memory.read (s.pc.toNat + 1)) := by
  have h1 : (1 : UInt16).toNat = 1 := rfl
  have hnext : (s.pc + 1).toNat = s.pc.toNat + 1 := by
    rw [UInt16.toNat_add, h1, Nat.mod_eq_of_lt (by omega)]
  rw [hnext]
  exact ⟨s.memory.read?_of_lt (by omega), s.memory.read?_of_lt (by omega)⟩

theorem fetchLanes_eq (hp : s.pc.toNat ≤ 0xFFE) (strays : Strays) :
    s.fetchLanes strays = s.word := by
  obtain ⟨hhigh, hlow⟩ := read?_pc hp
  rw [fetchLanes, hhigh, hlow]
  rfl

theorem fetch?_eq (hp : s.pc.toNat ≤ 0xFFE) : s.fetch? = some s.word := by
  obtain ⟨hhigh, hlow⟩ := read?_pc hp
  rw [fetch?, hhigh, hlow]
  rfl

/-! ### The cycle -/

/-- A step from a word in memory, by the test for faults. -/
theorem step_of_near (hs : s.halted = false) (hp : s.pc.toNat ≤ 0xFFE) :
    s.step = match s.begun.fault? (Instruction.ofWord s.word) with
      | some f => s.withStatus f.status
      | none => (s.begun.perform (Instruction.ofWord s.word)).tickTimers := by
  -- the test looks at `I` and the stack, which `begun` leaves alone
  have hb : s.begun.fault? (Instruction.ofWord s.word) = s.fault? (Instruction.ofWord s.word) := rfl
  rw [hb]
  rcases hf : s.fault? (Instruction.ofWord s.word) with - | f
  · exact (step_eq_perform hs hp rfl hf).1
  · exact step_of_fault hs ((s.cycle_eq_error_iff f).mpr (.execute hp (refuses_of_fault? hf)))

theorem stepLanes_eq (hlow : 0 ≤ s.stack.pointer) (hhigh : s.stack.pointer ≤ 16)
    (strays : Strays) : s.stepLanes strays = s.step := by
  rcases hs : s.halted with - | -
  · rcases Nat.lt_or_ge 0xFFE s.pc.toNat with hp | hp
    · rw [stepLanes, if_neg (by simp [hs]), if_pos hp, step_of_far hs hp]
    · rw [stepLanes, if_neg (by simp [hs]), if_neg (by omega), step_of_near hs hp]
      simp only [fetchLanes_eq hp]
      rcases hf : s.begun.fault? (Instruction.ofWord s.word) with - | f
      · exact congrArg tickTimers (performLanes_eq (s := s.begun) hlow hhigh hf strays)
      · rfl
  · rw [stepLanes, if_pos hs, step_of_halted hs]

theorem step?_eq (hlow : 0 ≤ s.stack.pointer) (hhigh : s.stack.pointer ≤ 16) :
    s.step? = some s.step := by
  rcases hs : s.halted with - | -
  · rcases Nat.lt_or_ge 0xFFE s.pc.toNat with hp | hp
    · rw [step?, if_neg (by simp [hs]), if_pos hp, step_of_far hs hp]
    · rw [step?, if_neg (by simp [hs]), if_neg (by omega), step_of_near hs hp, fetch?_eq hp,
        Option.bind_some]
      rcases hf : s.begun.fault? (Instruction.ofWord s.word) with - | f
      · exact congrArg (Option.map tickTimers) (perform?_eq (s := s.begun) hlow hhigh hf)
      · rfl
  · rw [step?, if_pos hs, step_of_halted hs]

/-- A step that executes its word has passed the test for faults. -/
theorem fault?_begun (h : s.step.halted = false) :
    s.begun.fault? (Instruction.ofWord s.word) = none := by
  have hs := halted_of_step h
  rcases hf : s.begun.fault? (Instruction.ofWord s.word) with - | f
  · rfl
  · rw [step_of_near hs (step_executed hs h).1, hf] at h
    exact absurd (h.symm.trans f.isFatal_status) Bool.noConfusion

/-- Every byte that a step stores goes into memory and is there after the step. -/
theorem read_of_stores (h : s.step.halted = false) {k : Nat} {b : UInt8}
    (hb : (s.begun.stores (Instruction.ofWord s.word))[k]? = some b) :
    s.index.toNat + k < 4096 ∧ s.step.memory.read (s.index.toNat + k) = b := by
  obtain ⟨hk, -⟩ := List.getElem?_eq_some_iff.mp hb
  have hle := length_stores_le s.begun (Instruction.ofWord s.word)
  have hfits : s.index.toNat + (Instruction.ofWord s.word).access.length ≤ 4096 :=
    fits_of_fault?_eq_none (fault?_begun h) (by omega)
  have hin : s.index.toNat + k < 4096 := by omega
  refine ⟨hin, ?_⟩
  have hb' : (s.stores (Instruction.ofWord s.word))[k]? = some b := hb
  rw [memory_step (halted_of_step h) h, Memory.read_writeAll _ _ _ _ hin,
    if_pos (Nat.le_add_right _ _), Nat.add_sub_cancel_left, hb']
  rfl

/-! ### Array bounds decide nothing -/

/-- **Reads outside an array never decide a result.**  With a stack pointer between 0 and 16, a step
is the same whatever such reads answer.  A step that executes its word uses slots 0 to 15 of the
call stack only, loses no byte that it stores, and the lanes of its store that lie past the end of
memory are those of registers past `VX` in `FX55`.  So no access that counts ever fails. -/
theorem step_lanes (s : State) (hlow : 0 ≤ s.stack.pointer) (hhigh : s.stack.pointer ≤ 16) :
    (∀ strays, s.stepLanes strays = s.step) ∧
      (s.step.halted = false →
        (∀ k, s.begun.slotIndex? (Instruction.ofWord s.word) = some k → 0 ≤ k ∧ k < 16) ∧
          (∀ strays, ∀ lane ∈ s.begun.storeLanes strays (Instruction.ofWord s.word),
            4096 ≤ lane.address →
              s.word &&& 0xF0FF = 0xF055 ∧ s.word.x.val < lane.entry ∧ lane.entry < 16) ∧
          ∀ k b, (s.begun.stores (Instruction.ofWord s.word))[k]? = some b →
            s.index.toNat + k < 4096 ∧ s.step.memory.read (s.index.toNat + k) = b) ∧
      s.step? = some s.step := by
  refine ⟨stepLanes_eq hlow hhigh, fun h => ⟨fun k hk => ?_, fun strays lane hl ha => ?_,
    fun k b hb => read_of_stores h hb⟩, step?_eq hlow hhigh⟩
  · exact slotIndex?_mem hlow hhigh (fault?_begun h) hk
  · obtain ⟨x, hi, hx, hlt⟩ := register_of_mem_storeLanes (fault?_begun h) hl ha
    obtain ⟨hw, rfl⟩ := Instruction.ofWord_eq_storeRegisters hi
    exact ⟨hw, hx, hlt⟩

/-- `F055` at `0x200` with one byte of memory left: fifteen of the sixteen lanes lie outside. -/
def edgeStore : State :=
  { State.initial ⟨0, 0⟩ with
    memory := Memory.zero.writeAll 0x200 [0xF0, 0x55]
    registers := Vector.replicate 16 7
    index := 0xFFF }

/-- The store ends normally and loses nothing. -/
theorem step_lanes_edgeStore :
    (0 ≤ edgeStore.stack.pointer ∧ edgeStore.stack.pointer ≤ 16) ∧
      edgeStore.step.halted = false ∧
      (∀ strays, edgeStore.stepLanes strays = edgeStore.step) ∧
      edgeStore.step.memory.read 0xFFF = 7 ∧
      edgeStore.step? = some edgeStore.step := by
  have hw : edgeStore.word = 0xF055 := by
    rw [word_writeAll (i := 0) rfl rfl (by decide) (by decide)]
    decide
  have hi : Instruction.ofWord edgeStore.word = .storeRegisters 0 := by
    rw [hw]
    decide
  have hp : (0x200 : UInt16).toNat ≤ 0xFFE := by decide
  have hf : Memory.accessFault? (Int32.ofNat 0xFFF) (Int32.ofNat 1) true = none := by decide
  have hh : edgeStore.step.halted = false := (step_eq_perform rfl hp hi hf).2
  obtain ⟨hlanes, hcount, hstep⟩ := step_lanes edgeStore (by decide) (by decide)
  refine ⟨⟨by decide, by decide⟩, hh, hlanes, ((hcount hh).2.2 0 7 ?_).2, hstep⟩
  rw [hi]
  rfl

end State

end Chip8
