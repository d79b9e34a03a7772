import Chip8.Execution

/-!
The effect of an instruction, field by field.  `State.perform` builds a whole state; the equations
here say what it leaves in one field, whatever the others hold:

* `perform_pc`, `perform_stack`, `perform_status` and so on — one line for each instruction that
  changes the field, the old value for all others;
* `perform_memory` — the bytes of `State.stores` are stored from `I` on;
* `register_perform` — a register that is not among `State.targets` keeps its value;
* `toNat_perform_pc` — no sum in an instruction that moves `pc` wraps, as long as `pc` lies in or
  just past memory.

Later files cite these equations and do not open `State.perform`.
-/

namespace Chip8

/-- Whether an operation has a flag. -/
def Alu.Operation.flagged : Alu.Operation → Bool
  | set | or | and | xor => false
  | add | subXY | shiftRight | subYX | shiftLeft => true

theorem Alu.isSome_flag_apply (o : Alu.Operation) (vx vy : UInt8) :
    (o.apply vx vy).flag.isSome = o.flagged := by
  cases o <;> rfl

namespace State

/-! ### Instructions with several outcomes -/

/-- Register arithmetic changes registers only. -/
theorem setOutcome_eq (s : State) (x : Nibble) (o : Alu.Outcome) :
    s.setOutcome x o = { s with registers := (s.setOutcome x o).registers } := by
  unfold setOutcome
  split <;> rfl

/-- A skip changes `pc` only. -/
theorem perform_skip_eq (s : State) (c : Condition) :
    s.perform (.skip c) = { s with pc := (s.perform (.skip c)).pc } := by
  simp only [perform]
  split <;> rfl

/-- A wait for a key changes a register, or `pc` and the status. -/
theorem perform_waitForKey_eq (s : State) (x : Nibble) :
    s.perform (.waitForKey x) =
      { s with
        registers := (s.perform (.waitForKey x)).registers
        pc := (s.perform (.waitForKey x)).pc
        status := (s.perform (.waitForKey x)).status } := by
  simp only [perform]
  split <;> rfl

/-! ### One equation for each field -/

theorem perform_pc (s : State) (i : Instruction) :
    (s.perform i).pc = match i with
      | .ret => s.stack.pop.1
      | .jump target | .call target => UInt16.ofNat target.val
      | .skip condition => if s.holds condition then s.pc + 2 else s.pc
      | .jumpWithOffset target =>
        UInt16.ofNat target.val + (s.register offsetRegister).toUInt16
      | .waitForKey _ => if s.lowestKeyDown? = none then s.pc - 2 else s.pc
      | _ => s.pc := by
  cases i with
  | skip condition => exact apply_ite State.pc _ _ _
  | alu operation x y => rw [perform, setOutcome_eq]
  | waitForKey x =>
    -- with a key down the key is stored, and otherwise `pc` steps back
    rcases h : s.lowestKeyDown? with - | k <;> simp [perform, h, setRegister]
  | _ => simp only [perform, setRegister, withStatus]

theorem perform_stack (s : State) (i : Instruction) :
    (s.perform i).stack = match i with
      | .ret => s.stack.pop.2
      | .call _ => s.stack.push s.pc
      | _ => s.stack := by
  cases i with
  | skip condition => rw [perform_skip_eq]
  | alu operation x y => rw [perform, setOutcome_eq]
  | waitForKey x => rw [perform_waitForKey_eq]
  | _ => simp only [perform, setRegister, withStatus]

theorem perform_status (s : State) (i : Instruction) :
    (s.perform i).status = match i with
      | .unimplemented => .unimplementedOpcode
      | .waitForKey _ => if s.lowestKeyDown? = none then .waitingForKey else s.status
      | _ => s.status := by
  cases i with
  | skip condition => rw [perform_skip_eq]
  | alu operation x y => rw [perform, setOutcome_eq]
  | waitForKey x => rcases h : s.lowestKeyDown? with - | k <;> simp [perform, h, setRegister]
  | _ => simp only [perform, setRegister, withStatus]

theorem perform_keypad (s : State) (i : Instruction) : (s.perform i).keypad = s.keypad := by
  cases i with
  | skip condition => rw [perform_skip_eq]
  | alu operation x y => rw [perform, setOutcome_eq]
  | waitForKey x => rw [perform_waitForKey_eq]
  | _ => simp only [perform, setRegister, withStatus]

theorem perform_display (s : State) (i : Instruction) :
    (s.perform i).display = match i with
      | .clearScreen => Display.blank
      | .draw x y height => s.display.toggle (s.sprite x y height)
      | _ => s.display := by
  cases i with
  | skip condition => rw [perform_skip_eq]
  | alu operation x y => rw [perform, setOutcome_eq]
  | waitForKey x => rw [perform_waitForKey_eq]
  | _ => simp only [perform, setRegister, withStatus]

theorem perform_rng (s : State) (i : Instruction) :
    (s.perform i).rng = match i with
      | .random _ _ => s.rng.draw.2
      | _ => s.rng := by
  cases i with
  | skip condition => rw [perform_skip_eq]
  | alu operation x y => rw [perform, setOutcome_eq]
  | waitForKey x => rw [perform_waitForKey_eq]
  | _ => simp only [perform, setRegister, withStatus]

theorem perform_index (s : State) (i : Instruction) :
    (s.perform i).index = match i with
      | .setIndex address => UInt16.ofNat address.val
      | .addToIndex x => s.index + (s.register x).toUInt16
      | .fontCharacter x => UInt16.ofNat (Font.glyphAddress (Nibble.ofByte (s.register x)))
      | _ => s.index := by
  cases i with
  | skip condition => rw [perform_skip_eq]
  | alu operation x y => rw [perform, setOutcome_eq]
  | waitForKey x => rw [perform_waitForKey_eq]
  | _ => simp only [perform, setRegister, withStatus]

theorem perform_delayTimer (s : State) (i : Instruction) :
    (s.perform i).delayTimer = match i with
      | .setDelayTimer x => s.register x
      | _ => s.delayTimer := by
  cases i with
  | skip condition => rw [perform_skip_eq]
  | alu operation x y => rw [perform, setOutcome_eq]
  | waitForKey x => rw [perform_waitForKey_eq]
  | _ => simp only [perform, setRegister, withStatus]

theorem perform_soundTimer (s : State) (i : Instruction) :
    (s.perform i).soundTimer = match i with
      | .setSoundTimer x => s.register x
      | _ => s.soundTimer := by
  cases i with
  | skip condition => rw [perform_skip_eq]
  | alu operation x y => rw [perform, setOutcome_eq]
  | waitForKey x => rw [perform_waitForKey_eq]
  | _ => simp only [perform, setRegister, withStatus]

/-- The bytes an instruction stores from `I` on. -/
def stores (s : State) : Instruction → List UInt8
  | .bcdConversion x => decimalDigits (s.register x)
  | .storeRegisters x => s.registersUpTo x
  | _ => []

/-- No instruction stores more bytes than it announces. -/
theorem length_stores_le (s : State) (i : Instruction) :
    (s.stores i).length ≤ i.access.length := by
  cases i with
  | storeRegisters x =>
    rw [stores, registersUpTo, List.length_take]
    exact Nat.min_le_left _ _
  | bcdConversion x => exact Nat.le_refl 3
  | _ => exact Nat.zero_le _

/-- Only an instruction that announces a store has bytes to store. -/
theorem writes_of_stores_ne_nil {s : State} {i : Instruction} (h : s.stores i ≠ []) :
    i.access.writes = true := by
  cases i with
  | storeRegisters x | bcdConversion x => rfl
  | _ => exact absurd rfl h

theorem perform_memory (s : State) (i : Instruction) :
    (s.perform i).memory = s.memory.writeAll s.index.toNat (s.stores i) := by
  cases i with
  | skip condition =>
    rw [perform_skip_eq]
    rfl
  | alu operation x y =>
    rw [perform, setOutcome_eq]
    rfl
  | waitForKey x =>
    rw [perform_waitForKey_eq]
    rfl
  | _ => simp only [perform, setRegister, withStatus, stores, Memory.writeAll]

/-! ### Registers -/

/-- The registers an instruction can change. -/
def targets (s : State) : Instruction → List Nibble
  | .set x _ | .add x _ | .random x _ | .getDelayTimer x => [x]
  | .alu operation x _ => if operation.flagged then [x, flagRegister] else [x]
  | .draw _ _ _ => [flagRegister]
  | .waitForKey x => if s.lowestKeyDown? = none then [] else [x]
  | .loadRegisters x => (List.finRange 16).filter (· ≤ x)
  | _ => []

theorem register_setRegister_of_ne (s : State) {x k : Nibble} (v : UInt8) (h : k ≠ x) :
    (s.setRegister x v).register k = s.register k := by
  rw [register_setRegister, if_neg h.symm]

theorem register_setOutcome {s : State} {x k : Nibble} {o : Alu.Outcome} (hx : k ≠ x)
    (hflag : o.flag.isSome = true → k ≠ flagRegister) :
    (s.setOutcome x o).register k = s.register k := by
  obtain ⟨result, flag⟩ := o
  cases flag with
  | none => exact register_setRegister_of_ne _ _ hx
  | some flag =>
    rw [setOutcome, register_setRegister_of_ne _ _ hx, register_setRegister_of_ne _ _ (hflag rfl)]

/-- An instruction changes no register but its targets. -/
theorem register_perform {s : State} {i : Instruction} {k : Nibble} (h : k ∉ s.targets i) :
    (s.perform i).register k = s.register k := by
  cases i with
  | skip condition => rw [perform_skip_eq, register, register]
  | set x nn | add x nn | random x mask | getDelayTimer x =>
    exact register_setRegister_of_ne _ _ (List.ne_of_not_mem_cons h)
  | alu operation x y =>
    have hx : k ≠ x := by
      rintro rfl
      simp only [targets] at h
      split at h <;> exact h List.mem_cons_self
    refine register_setOutcome hx fun hflag => ?_
    rw [Alu.isSome_flag_apply] at hflag
    rintro rfl
    rw [targets, if_pos hflag] at h
    exact h (List.mem_cons_of_mem _ List.mem_cons_self)
  | draw x y height =>
    have hk : k ≠ flagRegister := List.ne_of_not_mem_cons h
    simp only [perform, setRegister, register, Vector.getElem_set]
    exact if_neg fun he => hk (Fin.ext he.symm)
  | waitForKey x =>
    rcases hk : s.lowestKeyDown? with - | key
    · simp only [perform, hk, register]
    · rw [targets, if_neg (by simp [hk])] at h
      simp only [perform, hk]
      exact register_setRegister_of_ne _ _ (List.ne_of_not_mem_cons h)
  | loadRegisters x =>
    have hx : ¬k ≤ x := by simpa [targets] using h
    simp only [perform, register, Vector.getElem_ofFn]
    exact if_neg hx
  | _ => simp only [perform, register, withStatus]

/-! ### The next address as an integer -/

/-- Where an instruction goes on, with plain sums in place of 16 bit ones. -/
def nextPc (s : State) : Instruction → Int
  | .ret => s.stack.pop.1.toNat
  | .jump target | .call target => target.val
  | .skip condition => if s.holds condition then s.pc.toNat + 2 else s.pc.toNat
  | .jumpWithOffset target => target.val + (s.register offsetRegister).toNat
  | .waitForKey _ => if s.lowestKeyDown? = none then s.pc.toNat - 2 else s.pc.toNat
  | _ => s.pc.toNat

theorem toNat_pc_add_two {pc : UInt16} (h : pc.toNat ≤ 0xFFFD) : (pc + 2).toNat = pc.toNat + 2 := by
  have h2 : (2 : UInt16).toNat = 2 := rfl
  rw [UInt16.toNat_add, h2, Nat.mod_eq_of_lt (by omega)]

theorem toNat_target (target : Address) : (UInt16.ofNat target.val).toNat = target.val := by
  have h : target.val < 65536 := Nat.lt_trans target.isLt (by decide)
  exact UInt16.toNat_ofNat_of_lt h

theorem toNat_perform_pc {s : State} (hlow : 2 ≤ s.pc.toNat) (hhigh : s.pc.toNat ≤ 0xFFFD)
    (i : Instruction) : ((s.perform i).pc.toNat : Int) = s.nextPc i := by
  rw [perform_pc]
  cases i with
  | jump target => exact congrArg Nat.cast (toNat_target target)
  | call target => exact congrArg Nat.cast (toNat_target target)
  | skip condition =>
    simp only [nextPc]
    split
    · rw [toNat_pc_add_two hhigh]
      rfl
    · rfl
  | jumpWithOffset target =>
    -- twelve bits and eight bits together need thirteen
    have ht := target.isLt
    have hv := (s.register offsetRegister).toNat_lt
    simp only [nextPc]
    rw [UInt16.toNat_add, toNat_target, UInt8.toNat_toUInt16, Nat.mod_eq_of_lt (by omega)]
    rfl
  | waitForKey x =>
    have h2 : (2 : UInt16).toNat = 2 := rfl
    -- the fetch has added what is taken back here
    have hle : (2 : UInt16) ≤ s.pc := UInt16.le_iff_toNat_le.mpr hlow
    simp only [nextPc]
    split
    · rw [UInt16.toNat_sub_of_le _ _ hle, h2]
      omega
    · rfl
  | _ => rfl

/-- From `pc` in or just past memory, with a return address in memory, no instruction goes on past
the reach of a jump with offset. -/
theorem nextPc_le {s : State} (hpc : s.pc.toNat ≤ 0x1000) (hstack : s.stack.pop.1.toNat ≤ 0xFFF)
    (i : Instruction) : s.nextPc i ≤ 0x10FE := by
  cases i with
  | ret =>
    simp only [nextPc]
    omega
  | jump target | call target =>
    have ht := target.isLt
    simp only [nextPc]
    omega
  | skip condition =>
    simp only [nextPc]
    split <;> omega
  | jumpWithOffset target =>
    have ht := target.isLt
    have hv := (s.register offsetRegister).toNat_lt
    simp only [nextPc]
    omega
  | waitForKey x =>
    simp only [nextPc]
    split <;> omega
  | _ =>
    simp only [nextPc]
    omega

end State

end Chip8
