import Chip8.Execution
import Chip8.Proofs.Recognition

/-!
When an instruction faults.  `State.fault?` tests the range of an access with 32 bit sums; here the
test is restated in natural numbers and then word by word:

    s.fault? (Instruction.ofWord w) = some f ↔ s.Refuses w f

`State.Refuses` has one rule for each way a word can fault, phrased on the bits of the word, `I` and
the stack pointer.  An access that leaves memory is an address fault even if it would also meet the
font, so the two rules for the font ask that the access fits.
-/

namespace Chip8

/-! ### Accesses in natural numbers -/

theorem Memory.accessFault?_ofNat {start length : Nat} (hs : start < 65536) (hl : length ≤ 16)
    (writes : Bool) :
    accessFault? (Int32.ofNat start) (Int32.ofNat length) writes =
      if 0 < length ∧ 4096 < start + length then some .addressFault
      else if 0 < length ∧ writes ∧ start < 0x0A0 ∧ 0x050 < start + length then
        some .protectedWrite
      else none := by
  -- both ends of the range lie far below `2 ^ 31`, so signed comparisons read them as they are
  have lt {a b : Nat} (ha : a < 2 ^ 31) (hb : b < 2 ^ 31) :
      Int32.ofNat a < Int32.ofNat b ↔ a < b := Int32.ofNat_lt_iff_lt ha hb
  have h0 : (0 : Int32) < Int32.ofNat length ↔ 0 < length :=
    lt (a := 0) (by omega) (by omega)
  have h1 : (4096 : Int32) < Int32.ofNat (start + length) ↔ 4096 < start + length :=
    lt (a := 4096) (by omega) (by omega)
  have h2 : Int32.ofNat start < (0x0A0 : Int32) ↔ start < 0x0A0 :=
    lt (b := 0x0A0) (by omega) (by omega)
  have h3 : (0x050 : Int32) < Int32.ofNat (start + length) ↔ 0x050 < start + length :=
    lt (a := 0x050) (by omega) (by omega)
  simp only [accessFault?, ← Int32.ofNat_add, h0, h1, h2, h3]

/-- No instruction touches more than sixteen bytes. -/
theorem Instruction.access_length_le (i : Instruction) : i.access.length ≤ 16 := by
  cases i <;> simp only [access] <;> omega

namespace State

/-- The `length` bytes from `I` on fit in memory, and one of them belongs to the font. -/
def MeetsFont (s : State) (length : Nat) : Prop :=
  s.index.toNat + length ≤ 4096 ∧
    ∃ a, s.index.toNat ≤ a ∧ a < s.index.toNat + length ∧ 0x050 ≤ a ∧ a < 0x0A0

theorem meetsFont_iff (s : State) {length : Nat} (hl : 0 < length) :
    s.MeetsFont length ↔ ¬4096 < s.index.toNat + length ∧ s.index.toNat < 0x0A0 ∧
      0x050 < s.index.toNat + length := by
  constructor
  · rintro ⟨hfit, a, h1, h2, h3, h4⟩
    omega
  · -- the first byte that belongs to both ranges
    rintro ⟨hfit, h1, h2⟩
    exact ⟨by omega, max s.index.toNat 0x050, by omega, by omega, by omega, by omega⟩

/-! ### Faults instruction by instruction -/

theorem fault?_ret (s : State) (f : Fault) :
    s.fault? .ret = some f ↔ f = .stackUnderflow ∧ s.stack.pointer ≤ 0 := by
  by_cases hp : s.stack.pointer ≤ 0 <;> simp [fault?, CallStack.isEmpty, hp, eq_comm]

theorem fault?_call (s : State) (target : Address) (f : Fault) :
    s.fault? (.call target) = some f ↔ f = .stackOverflow ∧ 16 ≤ s.stack.pointer := by
  by_cases hp : 16 ≤ s.stack.pointer <;> simp [fault?, CallStack.isFull, hp, eq_comm]

/-- An instruction that neither returns nor calls faults by its access alone. -/
theorem fault?_access (s : State) {i : Instruction} (hr : i ≠ .ret) (hc : ∀ t, i ≠ .call t)
    (f : Fault) :
    s.fault? i = some f ↔
      0 < i.access.length ∧
        (f = .addressFault ∧ 4096 < s.index.toNat + i.access.length ∨
          f = .protectedWrite ∧ i.access.writes = true ∧ s.MeetsFont i.access.length) := by
  have he : s.fault? i = Memory.accessFault? (Int32.ofNat s.index.toNat)
      (Int32.ofNat i.access.length) i.access.writes := by
    cases i <;> first | rfl | exact absurd rfl hr | exact absurd rfl (hc _)
  rw [he, Memory.accessFault?_ofNat s.index.toNat_lt i.access_length_le]
  by_cases hl : 0 < i.access.length
  · rw [s.meetsFont_iff hl]
    by_cases hp : 4096 < s.index.toNat + i.access.length
    · simp [hl, hp, eq_comm (a := f)]
    · by_cases hf : i.access.writes = true ∧ s.index.toNat < 0x0A0 ∧
          0x050 < s.index.toNat + i.access.length
      · simp [hl, hp, hf, eq_comm (a := f)]
      · simp [hl, hp, hf]
  · simp [hl]

/-! ### Instructions that pass the test -/

/-- An instruction that neither returns nor calls and touches no memory beyond its own word passes
the test. -/
theorem fault?_of_no_access {s : State} {i : Instruction} (hr : i ≠ .ret) (hc : ∀ t, i ≠ .call t)
    (hl : i.access.length = 0) : s.fault? i = none := by
  rcases hf : s.fault? i with - | f
  · rfl
  · have hpos := ((s.fault?_access hr hc f).mp hf).1
    rw [hl] at hpos
    exact absurd hpos (Nat.lt_irrefl 0)

/-- An instruction that passes the test stays in memory. -/
theorem fits_of_fault?_eq_none {s : State} {i : Instruction} (h : s.fault? i = none)
    (hl : 0 < i.access.length) : s.index.toNat + i.access.length ≤ 4096 := by
  have hr : i ≠ .ret := fun hi => by simp [hi, Instruction.access] at hl
  have hc (t : Address) : i ≠ .call t := fun hi => by simp [hi, Instruction.access] at hl
  rcases Nat.lt_or_ge 4096 (s.index.toNat + i.access.length) with hp | hp
  · have hf := (s.fault?_access hr hc .addressFault).mpr ⟨hl, .inl ⟨rfl, hp⟩⟩
    rw [h] at hf
    cases hf
  · exact hp

/-- An instruction that passes the test and stores meets no byte of the font. -/
theorem not_meetsFont_of_fault?_eq_none {s : State} {i : Instruction} (h : s.fault? i = none)
    (hl : 0 < i.access.length) (hw : i.access.writes = true) :
    ¬s.MeetsFont i.access.length := by
  have hr : i ≠ .ret := fun hi => by simp [hi, Instruction.access] at hl
  have hc (t : Address) : i ≠ .call t := fun hi => by simp [hi, Instruction.access] at hl
  intro hm
  have hf := (s.fault?_access hr hc .protectedWrite).mpr ⟨hl, .inr ⟨rfl, hw, hm⟩⟩
  rw [h] at hf
  cases hf

/-! ### Faults word by word -/

/-- The ways in which a word can fault on a state. -/
inductive Refuses (s : State) (w : Word) : Fault → Prop
  /-- `DXYN` with rows past the end of memory. -/
  | draw : w &&& 0xF000 = 0xD000 → 0 < w.n.val → 4096 < s.index.toNat + w.n.val →
      Refuses s w .addressFault
  /-- `FX33` past the end of memory. -/
  | bcd : w &&& 0xF0FF = 0xF033 → 4096 < s.index.toNat + 3 → Refuses s w .addressFault
  /-- `FX55` past the end of memory. -/
  | store : w &&& 0xF0FF = 0xF055 → 4096 < s.index.toNat + (w.x.val + 1) →
      Refuses s w .addressFault
  /-- `FX65` past the end of memory. -/
  | load : w &&& 0xF0FF = 0xF065 → 4096 < s.index.toNat + (w.x.val + 1) →
      Refuses s w .addressFault
  /-- `00EE` with no call pending. -/
  | ret : w = 0x00EE → s.stack.pointer ≤ 0 → Refuses s w .stackUnderflow
  /-- `2NNN` with every slot taken. -/
  | call : w &&& 0xF000 = 0x2000 → 16 ≤ s.stack.pointer → Refuses s w .stackOverflow
  /-- `FX33` into the font. -/
  | bcdFont : w &&& 0xF0FF = 0xF033 → s.MeetsFont 3 → Refuses s w .protectedWrite
  /-- `FX55` into the font. -/
  | storeFont : w &&& 0xF0FF = 0xF055 → s.MeetsFont (w.x.val + 1) → Refuses s w .protectedWrite

/-- Only the rules of `Refuses` lead to a fault. -/
theorem refuses_of_fault? {s : State} {w : Word} {f : Fault}
    (h : s.fault? (Instruction.ofWord w) = some f) : s.Refuses w f := by
  cases ho : Opcode.ofWord w with
  | ret =>
    have hw : w = 0x00EE := (Opcode.ofWord_eq_ret_iff w).mp ho
    simp only [Instruction.ofWord, ho] at h
    obtain ⟨rfl, hp⟩ := (s.fault?_ret f).mp h
    exact .ret hw hp
  | call =>
    have hw : w &&& 0xF000 = 0x2000 := (Opcode.ofWord_eq_iff (by decide) w).mp ho
    simp only [Instruction.ofWord, ho] at h
    obtain ⟨rfl, hp⟩ := (s.fault?_call _ f).mp h
    exact .call hw hp
  | draw =>
    have hw : w &&& 0xF000 = 0xD000 := (Opcode.ofWord_eq_iff (by decide) w).mp ho
    simp only [Instruction.ofWord, ho] at h
    obtain ⟨hn, ⟨rfl, hp⟩ | ⟨rfl, hwr, -⟩⟩ := (s.fault?_access (by simp) (by simp) f).mp h
    · exact .draw hw hn hp
    · cases hwr
  | bcdConversion =>
    have hw : w &&& 0xF0FF = 0xF033 := (Opcode.ofWord_eq_iff (by decide) w).mp ho
    simp only [Instruction.ofWord, ho] at h
    obtain ⟨-, ⟨rfl, hp⟩ | ⟨rfl, -, hp⟩⟩ := (s.fault?_access (by simp) (by simp) f).mp h
    · exact .bcd hw hp
    · exact .bcdFont hw hp
  | storeRegisters =>
    have hw : w &&& 0xF0FF = 0xF055 := (Opcode.ofWord_eq_iff (by decide) w).mp ho
    simp only [Instruction.ofWord, ho] at h
    obtain ⟨-, ⟨rfl, hp⟩ | ⟨rfl, -, hp⟩⟩ := (s.fault?_access (by simp) (by simp) f).mp h
    · exact .store hw hp
    · exact .storeFont hw hp
  | loadRegisters =>
    have hw : w &&& 0xF0FF = 0xF065 := (Opcode.ofWord_eq_iff (by decide) w).mp ho
    simp only [Instruction.ofWord, ho] at h
    obtain ⟨-, ⟨rfl, hp⟩ | ⟨rfl, hwr, -⟩⟩ := (s.fault?_access (by simp) (by simp) f).mp h
    · exact .load hw hp
    · cases hwr
  | _ =>
    -- every other kind touches no memory beyond its own word
    simp only [Instruction.ofWord, ho] at h
    have hl := ((s.fault?_access (by simp) (by simp) f).mp h).1
    exact absurd hl (Nat.lt_irrefl 0)

/-- Every rule of `Refuses` leads to its fault. -/
theorem fault?_of_refuses {s : State} {w : Word} {f : Fault} (h : s.Refuses w f) :
    s.fault? (Instruction.ofWord w) = some f := by
  cases h with
  | draw hw hn hp =>
    rw [Instruction.ofWord_of_draw hw]
    exact (s.fault?_access (by simp) (by simp) _).mpr ⟨hn, .inl ⟨rfl, hp⟩⟩
  | bcd hw hp =>
    rw [Instruction.ofWord_of_bcd hw]
    exact (s.fault?_access (by simp) (by simp) _).mpr ⟨Nat.succ_pos _, .inl ⟨rfl, hp⟩⟩
  | store hw hp =>
    rw [Instruction.ofWord_of_store hw]
    exact (s.fault?_access (by simp) (by simp) _).mpr ⟨Nat.succ_pos _, .inl ⟨rfl, hp⟩⟩
  | load hw hp =>
    rw [Instruction.ofWord_of_load hw]
    exact (s.fault?_access (by simp) (by simp) _).mpr ⟨Nat.succ_pos _, .inl ⟨rfl, hp⟩⟩
  | ret hw hp =>
    have ho : Opcode.ofWord w = .ret := (Opcode.ofWord_eq_ret_iff w).mpr hw
    simp only [Instruction.ofWord, ho]
    exact (s.fault?_ret _).mpr ⟨rfl, hp⟩
  | call hw hp =>
    rw [Instruction.ofWord_of_call hw]
    exact (s.fault?_call _ _).mpr ⟨rfl, hp⟩
  | bcdFont hw hp =>
    rw [Instruction.ofWord_of_bcd hw]
    exact (s.fault?_access (by simp) (by simp) _).mpr ⟨Nat.succ_pos _, .inr ⟨rfl, rfl, hp⟩⟩
  | storeFont hw hp =>
    rw [Instruction.ofWord_of_store hw]
    exact (s.fault?_access (by simp) (by simp) _).mpr ⟨Nat.succ_pos _, .inr ⟨rfl, rfl, hp⟩⟩

/-- **Faults word by word.** -/
theorem fault?_ofWord_iff (s : State) (w : Word) (f : Fault) :
    s.fault? (Instruction.ofWord w) = some f ↔ s.Refuses w f :=
  ⟨refuses_of_fault?, fault?_of_refuses⟩

/-! ### Execution by cases on the fault -/

theorem execute_eq (s : State) (w : Word) :
    s.execute w = match s.fault? (Instruction.ofWord w) with
      | some f => s.withStatus f.status
      | none => (s.withStatus .ok).perform (Instruction.ofWord w) := by
  rw [execute, attempt]
  cases s.fault? (Instruction.ofWord w) <;> rfl

/-- A word that no rule refuses passes the test. -/
theorem fault?_of_not_refuses {s : State} {w : Word} {i : Instruction}
    (hi : Instruction.ofWord w = i) (h : ∀ f, ¬s.Refuses w f) : s.fault? i = none := by
  rw [Option.eq_none_iff_forall_ne_some]
  intro f hf
  exact h f ((s.fault?_ofWord_iff w f).mp (hi ▸ hf))

/-- An instruction that passes the test is executed. -/
theorem execute_eq_perform {s : State} {w : Word} {i : Instruction} (hi : Instruction.ofWord w = i)
    (hf : s.fault? i = none) : s.execute w = (s.withStatus .ok).perform i := by
  rw [execute_eq, hi, hf]

end State

end Chip8
