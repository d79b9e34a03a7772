import Chip8.Proofs.Cycle.OwnWord

/-!
What a step can change.  `State.Footprint s w t` lists, field by field, which words may change the
field between `s` and `t`, and where; the two timers are given as functions of the state before.
`State.MayWrite` has one rule for each form of word that writes a register.

Main result: `step_footprint` — a step that ends without a fault stays within the footprint of the
word at `pc`.  Whatever a word is not named for is left as it was, also by words of no kind.
-/

namespace Chip8.State

/-! ### Registers a word can write -/

/-- The forms of word that write a register. -/
inductive MayWrite (s : State) (w : Word) : Nibble → Prop
  /-- `6XNN` and `7XNN`. -/
  | immediate : w &&& 0xF000 ∈ [0x6000, 0x7000] → MayWrite s w w.x
  /-- `8XY0` to `8XY3`. -/
  | plain : w &&& 0xF00F ∈ [0x8000, 0x8001, 0x8002, 0x8003] → MayWrite s w w.x
  /-- `8XY4` to `8XY7` and `8XYE`: the result and the flag. -/
  | flagged (k : Nibble) : w &&& 0xF00F ∈ [0x8004, 0x8005, 0x8006, 0x8007, 0x800E] →
      k ∈ [w.x, 0xF] → MayWrite s w k
  /-- `CXNN`. -/
  | random : w &&& 0xF000 = 0xC000 → MayWrite s w w.x
  /-- `DXYN`. -/
  | draw : w &&& 0xF000 = 0xD000 → MayWrite s w 0xF
  /-- `FX07`. -/
  | getDelayTimer : w &&& 0xF0FF = 0xF007 → MayWrite s w w.x
  /-- `FX0A` with a key down. -/
  | waitForKey (key : Nibble) : w &&& 0xF0FF = 0xF00A → s.keyDown key = true → MayWrite s w w.x
  /-- `FX65`. -/
  | load (k : Nibble) : w &&& 0xF0FF = 0xF065 → k ≤ w.x → MayWrite s w k

theorem exists_keyDown {s : State} (h : s.lowestKeyDown? ≠ none) : ∃ k, s.keyDown k = true := by
  rw [Ne, lowestKeyDown?_eq_none_iff] at h
  simpa using h

/-- The targets of the instruction a word spells are registers the word can write. -/
theorem mayWrite_of_mem_targets {s : State} {w : Word} {k : Nibble}
    (h : k ∈ s.targets (Instruction.ofWord w)) : s.MayWrite w k := by
  have himmediate : Opcode.ofWord w ∈ [.set, .add] → w &&& 0xF000 ∈ [0x6000, 0x7000] :=
    Opcode.and_mask_mem (by decide)
  have hplain : Opcode.ofWord w ∈ [.aluSet, .aluOr, .aluAnd, .aluXor] →
      w &&& 0xF00F ∈ [0x8000, 0x8001, 0x8002, 0x8003] :=
    Opcode.and_mask_mem (by decide)
  have hflagged : Opcode.ofWord w ∈ [.aluAdd, .aluSubXY, .aluShiftRight, .aluSubYX,
      .aluShiftLeft] → w &&& 0xF00F ∈ [0x8004, 0x8005, 0x8006, 0x8007, 0x800E] :=
    Opcode.and_mask_mem (by decide)
  cases ho : Opcode.ofWord w with
  | set | add =>
    simp only [Instruction.ofWord, ho, targets, List.mem_singleton] at h
    exact h ▸ .immediate (himmediate (by rw [ho]; decide))
  | aluSet | aluOr | aluAnd | aluXor =>
    simp only [Instruction.ofWord, ho, targets] at h
    exact List.mem_singleton.mp h ▸ .plain (hplain (by rw [ho]; decide))
  | aluAdd | aluSubXY | aluShiftRight | aluSubYX | aluShiftLeft =>
    simp only [Instruction.ofWord, ho, targets] at h
    exact .flagged k (hflagged (by rw [ho]; decide)) h
  | random =>
    simp only [Instruction.ofWord, ho, targets, List.mem_singleton] at h
    exact h ▸ .random ((Opcode.ofWord_eq_iff (by decide) w).mp ho)
  | draw =>
    simp only [Instruction.ofWord, ho, targets, List.mem_singleton] at h
    exact h ▸ .draw ((Opcode.ofWord_eq_iff (by decide) w).mp ho)
  | getDelayTimer =>
    simp only [Instruction.ofWord, ho, targets, List.mem_singleton] at h
    exact h ▸ .getDelayTimer ((Opcode.ofWord_eq_iff (by decide) w).mp ho)
  | waitForKey =>
    simp only [Instruction.ofWord, ho, targets] at h
    split at h
    · cases h
    · rename_i hk
      obtain ⟨key, hkey⟩ := exists_keyDown hk
      exact List.mem_singleton.mp h ▸
        .waitForKey key ((Opcode.ofWord_eq_iff (by decide) w).mp ho) hkey
  | loadRegisters =>
    simp only [Instruction.ofWord, ho, targets, List.mem_filter, decide_eq_true_eq] at h
    exact .load k ((Opcode.ofWord_eq_iff (by decide) w).mp ho) h.2
  | _ =>
    -- the other kinds have no target
    simp only [Instruction.ofWord, ho, targets] at h
    cases h

/-! ### The footprint of a word -/

/-- The bytes a word can store: `FX33` three of them and `FX55` one for each register. -/
inductive MayStore (s : State) (w : Word) (a : Nat) : Prop
  | bcd : w &&& 0xF0FF = 0xF033 → s.index.toNat ≤ a → a ≤ s.index.toNat + 2 → MayStore s w a
  | store : w &&& 0xF0FF = 0xF055 → s.index.toNat ≤ a → a ≤ s.index.toNat + w.x.val →
      MayStore s w a

/-- What a word leaves as it was from `s` to `t`, and how it moves the timers. -/
structure Footprint (s : State) (w : Word) (t : State) : Prop where
  keypad : t.keypad = s.keypad
  memory : ∀ a < 4096, ¬s.MayStore w a → t.memory.read a = s.memory.read a
  display : w ≠ 0x00E0 → w &&& 0xF000 ≠ 0xD000 → t.display = s.display
  stack : w &&& 0xF000 ≠ 0x2000 → w ≠ 0x00EE → t.stack = s.stack
  rng : w &&& 0xF000 ≠ 0xC000 → t.rng = s.rng
  index : w &&& 0xF000 ≠ 0xA000 → w &&& 0xF0FF ≠ 0xF01E → w &&& 0xF0FF ≠ 0xF029 →
    t.index = s.index
  delayTimer : t.delayTimer.toNat =
    (if w &&& 0xF0FF = 0xF015 then s.register w.x else s.delayTimer).toNat - 1
  soundTimer : t.soundTimer.toNat =
    (if w &&& 0xF0FF = 0xF018 then s.register w.x else s.soundTimer).toNat - 1
  registers : ∀ k, ¬s.MayWrite w k → t.register k = s.register k

/-! ### The footprint of an instruction -/

theorem mayStore_of_stores {s : State} {w : Word} {i : Nat} {b : UInt8}
    (h : (s.stores (Instruction.ofWord w))[i]? = some b) : s.MayStore w (s.index.toNat + i) := by
  obtain ⟨hi, -⟩ := List.getElem?_eq_some_iff.mp h
  cases ho : Opcode.ofWord w with
  | bcdConversion =>
    simp only [Instruction.ofWord, ho, stores, decimalDigits, List.length_cons,
      List.length_nil] at hi
    exact .bcd ((Opcode.ofWord_eq_iff (by decide) w).mp ho) (by omega) (by omega)
  | storeRegisters =>
    simp only [Instruction.ofWord, ho, stores, registersUpTo, List.length_take] at hi
    exact .store ((Opcode.ofWord_eq_iff (by decide) w).mp ho) (by omega) (by omega)
  | _ =>
    simp only [Instruction.ofWord, ho, stores] at h
    cases h

variable (s : State) (w : Word)

theorem display_perform_ofWord (hclear : w ≠ 0x00E0) (hdraw : w &&& 0xF000 ≠ 0xD000) :
    (s.perform (Instruction.ofWord w)).display = s.display := by
  rw [perform_display]
  cases ho : Opcode.ofWord w with
  | clearScreen => exact absurd ((Opcode.ofWord_eq_clearScreen_iff w).mp ho) hclear
  | draw => exact absurd ((Opcode.ofWord_eq_iff (by decide) w).mp ho) hdraw
  | _ => simp only [Instruction.ofWord, ho]

theorem stack_perform_ofWord (hcall : w &&& 0xF000 ≠ 0x2000) (hret : w ≠ 0x00EE) :
    (s.perform (Instruction.ofWord w)).stack = s.stack := by
  rw [perform_stack]
  cases ho : Opcode.ofWord w with
  | call => exact absurd ((Opcode.ofWord_eq_iff (by decide) w).mp ho) hcall
  | ret => exact absurd ((Opcode.ofWord_eq_ret_iff w).mp ho) hret
  | _ => simp only [Instruction.ofWord, ho]

theorem rng_perform_ofWord (hrandom : w &&& 0xF000 ≠ 0xC000) :
    (s.perform (Instruction.ofWord w)).rng = s.rng := by
  rw [perform_rng]
  cases ho : Opcode.ofWord w with
  | random => exact absurd ((Opcode.ofWord_eq_iff (by decide) w).mp ho) hrandom
  | _ => simp only [Instruction.ofWord, ho]

theorem index_perform_ofWord (hset : w &&& 0xF000 ≠ 0xA000) (hadd : w &&& 0xF0FF ≠ 0xF01E)
    (hfont : w &&& 0xF0FF ≠ 0xF029) :
    (s.perform (Instruction.ofWord w)).index = s.index := by
  rw [perform_index]
  cases ho : Opcode.ofWord w with
  | setIndex => exact absurd ((Opcode.ofWord_eq_iff (by decide) w).mp ho) hset
  | addToIndex => exact absurd ((Opcode.ofWord_eq_iff (by decide) w).mp ho) hadd
  | fontCharacter => exact absurd ((Opcode.ofWord_eq_iff (by decide) w).mp ho) hfont
  | _ => simp only [Instruction.ofWord, ho]

theorem delayTimer_perform_ofWord :
    (s.perform (Instruction.ofWord w)).delayTimer =
      if w &&& 0xF0FF = 0xF015 then s.register w.x else s.delayTimer := by
  have hk := Opcode.ofWord_eq_iff (show ⟨0xF0FF, 0xF015, .setDelayTimer⟩ ∈ Opcode.patterns by
    decide) w
  simp only [perform_delayTimer, ← hk]
  cases ho : Opcode.ofWord w with
  | _ => simp [Instruction.ofWord, ho]

theorem soundTimer_perform_ofWord :
    (s.perform (Instruction.ofWord w)).soundTimer =
      if w &&& 0xF0FF = 0xF018 then s.register w.x else s.soundTimer := by
  have hk := Opcode.ofWord_eq_iff (show ⟨0xF0FF, 0xF018, .setSoundTimer⟩ ∈ Opcode.patterns by
    decide) w
  simp only [perform_soundTimer, ← hk]
  cases ho : Opcode.ofWord w with
  | _ => simp [Instruction.ofWord, ho]

/-! ### The footprint of a step -/

/-- **What a step can change.**  A step that ends without a fault changes no more than the word at
`pc` is named for: the keypad never, every other field by certain words only, bytes and registers at
certain places only, and the timers count down by one, from `VX` where the word sets the timer. -/
theorem step_footprint (h : s.step.halted = false) : s.Footprint s.word s.step := by
  have hs := halted_of_step h
  have hmemory := memory_step hs h
  rw [(step_executed hs h).2] at hmemory ⊢
  -- `begun` differs from `s` in `pc` and status only, and the ticks touch the timers only
  exact {
    keypad := perform_keypad _ _
    memory := fun a ha hout => by
      rw [hmemory, Memory.read_writeAll_eq_iff _ _ _ ha]
      rintro i b hb rfl
      exact absurd (mayStore_of_stores hb) hout
    display := s.begun.display_perform_ofWord s.word
    stack := s.begun.stack_perform_ofWord s.word
    rng := s.begun.rng_perform_ofWord s.word
    index := s.begun.index_perform_ofWord s.word
    delayTimer := by
      rw [← toNat_tick]
      exact congrArg (fun t => (tick t).toNat) (s.begun.delayTimer_perform_ofWord s.word)
    soundTimer := by
      rw [← toNat_tick]
      exact congrArg (fun t => (tick t).toNat) (s.begun.soundTimer_perform_ofWord s.word)
    registers := fun k hout =>
      register_perform fun hk => hout (mayWrite_of_mem_targets (s := s) hk) }

/-- `F155` at `0x200` with the last two bytes of memory to store to, and the delay timer at one. -/
def lastBytesStore : State :=
  { State.initial ⟨0, 0⟩ with
    memory := Memory.zero.writeAll 0x200 [0xF1, 0x55]
    index := 0xFFE
    delayTimer := 1 }

/-- The store reaches no byte before the last two, no register, and lets the timer run out. -/
theorem step_footprint_lastBytesStore :
    lastBytesStore.step.halted = false ∧
      (∀ a < 0xFFE, lastBytesStore.step.memory.read a = lastBytesStore.memory.read a) ∧
      (∀ k, lastBytesStore.step.register k = lastBytesStore.register k) ∧
      lastBytesStore.step.delayTimer.toNat = 0 := by
  have hw : lastBytesStore.word = 0xF155 := by
    rw [word_writeAll (i := 0) rfl rfl (by decide) (by decide)]
    decide
  have hi : Instruction.ofWord lastBytesStore.word = .storeRegisters 1 := by
    rw [hw]
    decide
  have hp : (0x200 : UInt16).toNat ≤ 0xFFE := by decide
  have hf : Memory.accessFault? (Int32.ofNat 0xFFE) (Int32.ofNat 2) true = none := by decide
  have hh : lastBytesStore.step.halted = false := (step_eq_perform rfl hp hi hf).2
  have hfoot := step_footprint lastBytesStore hh
  rw [hw] at hfoot
  refine ⟨hh, fun a ha => hfoot.memory a (by omega) ?_, fun k => hfoot.registers k ?_,
    hfoot.delayTimer⟩
  · rintro (⟨-, hlow, -⟩ | ⟨-, hlow, -⟩)
    · exact absurd hlow (Nat.not_le.mpr ha)
    · exact absurd hlow (Nat.not_le.mpr ha)
  · intro hk
    cases hk with
    | immediate h | plain h | random h | draw h | getDelayTimer h => exact absurd h (by decide)
    | flagged _ h _ | waitForKey _ h _ | load _ h _ => exact absurd h (by decide)

end Chip8.State
