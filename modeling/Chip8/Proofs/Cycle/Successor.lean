import Chip8.Proofs.Cycle.Outcome

/-!
Where a step goes on.  `State.successor s w` is the address that a step over the word `w` goes on
at, read off the bits of the word, with plain sums in place of 16 bit ones:

* the target of a jump or a call, and that plus `V0` for a jump with offset, which is not cut;
* the newest return address for a return;
* the word itself for a wait with no key down;
* the word after the next one for a skip whose condition holds (`State.Skips`);
* the next word for every other word, those of no kind among them.

A step is refused for its word, `I` and the stack, and never for its successor.  A successor outside
memory is found out by the step after it, whose fetch is an address fault.

Main result: `step_successor`.
-/

namespace Chip8

/-! ### The newest return address -/

/-- The slot below the pointer. -/
def CallStack.top (s : CallStack) : UInt16 :=
  s.slots[s.pointer.toInt.toNat - 1]?.getD 0

/-- From a pointer that names a slot, a pop answers with the newest address. -/
theorem CallStack.pop_fst {s : CallStack} (hlow : ¬s.pointer ≤ 0) (hhigh : s.pointer ≤ 16) :
    s.pop.1 = s.top := by
  have h0 : (0 : Int32).toInt = 0 := rfl
  have h1 : (1 : Int32).toInt = 1 := rfl
  have h16 : (16 : Int32).toInt = 16 := rfl
  rw [Int32.le_iff_toInt_le, h0] at hlow
  rw [Int32.le_iff_toInt_le, h16] at hhigh
  obtain ⟨k, hk⟩ : ∃ k : Nat, s.pointer.toInt = k + 1 :=
    ⟨(s.pointer.toInt - 1).toNat, by omega⟩
  have hlt : k < 16 := by omega
  have htop : (s.pointer - 1).toInt = k := by
    rw [Int32.toInt_sub, hk, h1, Int.bmod_eq_of_le (by omega) (by omega)]
    omega
  have hbelow : s.pointer.toInt.toNat - 1 = k := by omega
  simp only [pop, slotAt, htop, Cell.nearest_of_lt hlt, top, hbelow, Vector.getElem?_eq_getElem hlt,
    Option.getD_some]

namespace State

/-! ### The rule -/

/-- The word is a skip whose condition holds. -/
def Skips (s : State) (w : Word) : Prop :=
  w &&& 0xF000 = 0x3000 ∧ s.register w.x = w.nn ∨
  w &&& 0xF000 = 0x4000 ∧ s.register w.x ≠ w.nn ∨
  w &&& 0xF00F = 0x5000 ∧ s.register w.x = s.register w.y ∨
  w &&& 0xF00F = 0x9000 ∧ s.register w.x ≠ s.register w.y ∨
  w &&& 0xF0FF = 0xE09E ∧ s.keyDown (Nibble.ofByte (s.register w.x)) = true ∨
  w &&& 0xF0FF = 0xE0A1 ∧ s.keyDown (Nibble.ofByte (s.register w.x)) = false

instance (s : State) (w : Word) : Decidable (s.Skips w) :=
  inferInstanceAs (Decidable (_ ∨ _ ∨ _ ∨ _ ∨ _ ∨ _))

/-- No key is down. -/
def NoKeyDown (s : State) : Prop :=
  ∀ k, s.keyDown k = false

instance (s : State) : Decidable s.NoKeyDown :=
  decidable_of_iff _ s.lowestKeyDown?_eq_none_iff

/-- The address that a step over a word goes on at. -/
def successor (s : State) (w : Word) : Nat :=
  if w &&& 0xF000 = 0x1000 ∨ w &&& 0xF000 = 0x2000 then w.nnn.val
  else if w &&& 0xF000 = 0xB000 then w.nnn.val + (s.register offsetRegister).toNat
  else if w = 0x00EE then s.stack.top.toNat
  else if w &&& 0xF0FF = 0xF00A ∧ s.NoKeyDown then s.pc.toNat
  else if s.Skips w then s.pc.toNat + 4
  else s.pc.toNat + 2

variable {s : State}

/-- Where an instruction goes on once `pc` is past its word, counted from the word. -/
theorem nextPc_begun (hp : s.pc.toNat ≤ 0xFFE) (i : Instruction) :
    s.begun.nextPc i = (match i with
      | .ret => s.stack.pop.1.toNat
      | .jump target | .call target => target.val
      | .skip condition => if s.holds condition then s.pc.toNat + 4 else s.pc.toNat + 2
      | .jumpWithOffset target => target.val + (s.register offsetRegister).toNat
      | .waitForKey _ => if s.lowestKeyDown? = none then s.pc.toNat else s.pc.toNat + 2
      | _ => s.pc.toNat + 2 : Nat) := by
  have hb : s.begun.pc.toNat = s.pc.toNat + 2 := toNat_pc_add_two (by omega)
  cases i with
  | skip condition =>
    have hholds : s.begun.holds condition = s.holds condition := by
      cases condition <;> rfl
    simp only [nextPc, hholds, hb]
    split <;> omega
  | waitForKey x =>
    have hkeys : s.begun.lowestKeyDown? = s.lowestKeyDown? := rfl
    simp only [nextPc, hkeys, hb]
    split <;> omega
  | ret | jump target | call target | jumpWithOffset target => rfl
  | _ => exact congrArg Nat.cast hb

/-- The rule is what the instruction of the word does. -/
theorem nextPc_begun_ofWord {w : Word} (hp : s.pc.toNat ≤ 0xFFE)
    (hret : w = 0x00EE → s.stack.pop.1 = s.stack.top) :
    s.begun.nextPc (Instruction.ofWord w) = s.successor w := by
  -- each form of word is a kind, and a word is of one kind only
  have hform {mask bits : Word} {o : Opcode} (h : ⟨mask, bits, o⟩ ∈ Opcode.patterns) :
      w &&& mask = bits ↔ Opcode.ofWord w = o := (Opcode.ofWord_eq_iff h w).symm
  have hjump : w &&& 0xF000 = 0x1000 ↔ Opcode.ofWord w = .jump := hform (by decide)
  have hcall : w &&& 0xF000 = 0x2000 ↔ Opcode.ofWord w = .call := hform (by decide)
  have hoffset : w &&& 0xF000 = 0xB000 ↔ Opcode.ofWord w = .jumpWithOffset := hform (by decide)
  have hwait : w &&& 0xF0FF = 0xF00A ↔ Opcode.ofWord w = .waitForKey := hform (by decide)
  have h3 : w &&& 0xF000 = 0x3000 ↔ Opcode.ofWord w = .skipIfEqualImmediate := hform (by decide)
  have h4 : w &&& 0xF000 = 0x4000 ↔ Opcode.ofWord w = .skipIfNotEqualImmediate := hform (by decide)
  have h5 : w &&& 0xF00F = 0x5000 ↔ Opcode.ofWord w = .skipIfEqualRegister := hform (by decide)
  have h9 : w &&& 0xF00F = 0x9000 ↔ Opcode.ofWord w = .skipIfNotEqualRegister := hform (by decide)
  have hkey : w &&& 0xF0FF = 0xE09E ↔ Opcode.ofWord w = .skipIfKey := hform (by decide)
  have hnotKey : w &&& 0xF0FF = 0xE0A1 ↔ Opcode.ofWord w = .skipIfNotKey := hform (by decide)
  rw [← Opcode.ofWord_eq_ret_iff] at hret
  rw [nextPc_begun hp]
  simp only [successor, Skips, hjump, hcall, hoffset, ← Opcode.ofWord_eq_ret_iff, hwait, h3, h4, h5,
    h9, hkey, hnotKey]
  cases ho : Opcode.ofWord w with
  | ret => simp [Instruction.ofWord, ho, hret]
  | waitForKey => simp [Instruction.ofWord, ho, NoKeyDown, lowestKeyDown?_eq_none_iff]
  | skipIfKey =>
    by_cases hdown : s.keyDown (Nibble.ofByte (s.register w.x)) = true <;>
      simp [Instruction.ofWord, ho, holds, hdown]
  | _ => simp [Instruction.ofWord, ho, holds, offsetRegister]

/-! ### The successor of a step -/

/-- **Where a step goes on.**  From a state that is not halted, with a stack pointer of at most 16,
a step ends without a fault exactly if the word at `pc` lies in memory and no rule refuses it, and
no rule looks at the successor.  The step then goes on at the successor of the word, as an integer.
If that lies outside memory, the next step is an address fault. -/
theorem step_successor (s : State) (hs : s.halted = false) (hhigh : s.stack.pointer ≤ 16) :
    (s.step.halted = false ↔ s.pc.toNat ≤ 0xFFE ∧ ∀ f, ¬s.Refuses s.word f) ∧
      (s.step.halted = false →
        s.step.pc.toNat = s.successor s.word ∧
          (0xFFE < s.step.pc.toNat →
            s.step.step = { s.step with status := Fault.addressFault.status })) := by
  cases s.step_view with
  | halted h ht =>
    rw [hs] at h
    cases h
  | faulted f h hf ht =>
    have hh : s.step.halted = true := by
      rw [ht]
      exact f.isFatal_status
    refine ⟨⟨fun hc => ?_, fun ⟨hp, hr⟩ => ?_⟩, fun hc => ?_⟩
    · exact absurd (hh.symm.trans hc) Bool.noConfusion
    · cases hf with
      | fetch hfar => omega
      | execute _ hrefuses => exact absurd hrefuses (hr f)
    · exact absurd (hh.symm.trans hc) Bool.noConfusion
  | executed h hf hp ht hh =>
    refine ⟨⟨fun _ => ⟨hp, fun f hr => hf f (.execute hp hr)⟩, fun _ => hh⟩, fun _ => ?_⟩
    -- an empty stack would have been a fault
    have hret (hw : s.word = 0x00EE) : s.stack.pop.1 = s.stack.top :=
      CallStack.pop_fst (fun hempty => hf _ (.execute hp (.ret hw hempty))) hhigh
    have hpc : s.step.pc.toNat = s.successor s.word :=
      Int.ofNat.inj ((toNat_step_pc hs hh).trans (nextPc_begun_ofWord hp hret))
    exact ⟨hpc, fun hfar => step_of_far hh hfar⟩

/-- `E3A1` in the last word of memory, with every slot of the stack taken and every key down but the
one that the low nibble of `V3` names. -/
def lastWordSkip : State :=
  { State.initial ⟨0, 0⟩ with
    memory := Memory.zero.writeAll 0xFFE [0xE3, 0xA1]
    registers := (Vector.replicate 16 0).set 3 0x1A
    pc := 0xFFE
    stack := ⟨Vector.replicate 16 0x300, 16⟩
    keypad := (Vector.replicate 16 true).set 10 false }

/-- The skip leads four bytes on, out of memory, and the fetch after it faults. -/
theorem step_successor_lastWordSkip :
    lastWordSkip.halted = false ∧ lastWordSkip.stack.pointer ≤ 16 ∧
      lastWordSkip.step.halted = false ∧ lastWordSkip.step.pc.toNat = 0x1002 ∧
      lastWordSkip.step.step.status = Fault.addressFault.status := by
  have hw : lastWordSkip.word = 0xE3A1 := by
    rw [word_writeAll (i := 0) rfl rfl (by decide) (by decide)]
    decide
  obtain ⟨hiff, hnext⟩ := step_successor lastWordSkip rfl (by decide)
  have hh : lastWordSkip.step.halted = false := by
    refine hiff.mpr ⟨by decide, fun f hr => ?_⟩
    rw [hw] at hr
    cases hr with
    | draw h _ _ => exact absurd h (by decide)
    | bcd h _ | store h _ | load h _ | ret h _ | call h _ | bcdFont h _ | storeFont h _ =>
      exact absurd h (by decide)
  obtain ⟨hpc, hfar⟩ := hnext hh
  have hat : lastWordSkip.step.pc.toNat = 0x1002 := by
    rw [hpc, hw]
    decide
  refine ⟨rfl, by decide, hh, hat, ?_⟩
  rw [hfar (by omega)]

/-- Words close to a skip or a return are passed over. -/
example : [0x5011, 0x901F, 0x00EF, 0xE0A2].map (State.initial ⟨0, 0⟩).successor =
    List.replicate 4 0x202 := by
  decide

end State

end Chip8
