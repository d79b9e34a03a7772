import Chip8.Proofs.Cycle.OwnWord
import Chip8.Proofs.Run.Action

/-!
The font stays intact.  An instruction that passes the test for faults stores nothing between
`0x050` and `0x0A0` (`sameFont_perform`), and programs are loaded behind the font, so nothing that
is done to a state touches the glyphs (`sameFont_operate`), whatever `I`, the stack pointer and
memory hold.  `State.Operation` lists what can be done: the actions of a host, the execution of a
word and whole runs.

`State.LooksUp s x t` says that `FX29` has just been executed: from `s` with the digit in `VX`, and
`t` is the state after it.

Main result: `font_integrity` — every operation keeps the font; where only operations have been at
work the font is `Font.data`; and `FX29` then points at the glyph of the digit, where a draw cannot
fault.
-/

namespace Chip8.State

/-- The bytes of the font are the same in two states. -/
def SameFont (s t : State) : Prop :=
  ∀ a, 0x050 ≤ a → a < 0x0A0 → t.memory.read a = s.memory.read a

theorem SameFont.refl (s : State) : s.SameFont s := fun _ _ _ => rfl

theorem SameFont.trans {s t u : State} (hst : s.SameFont t) (htu : t.SameFont u) : s.SameFont u :=
  fun a hlow hhigh => (htu a hlow hhigh).trans (hst a hlow hhigh)

theorem SameFont.of_memory_eq {s t : State} (h : t.memory = s.memory) : s.SameFont t := by
  intro a _ _
  rw [h]

/-! ### Instructions -/

/-- The bytes of an instruction that passes the test for faults lie outside the font. -/
theorem stores_apart {s : State} {i : Instruction} (h : s.fault? i = none) {k : Nat} {b : UInt8}
    (hb : (s.stores i)[k]? = some b) :
    ¬(0x050 ≤ s.index.toNat + k ∧ s.index.toNat + k < 0x0A0) := by
  obtain ⟨hk, -⟩ := List.getElem?_eq_some_iff.mp hb
  have hlen := s.length_stores_le i
  have hw : i.access.writes = true := by
    refine writes_of_stores_ne_nil (s := s) fun hnil => ?_
    rw [hnil] at hk
    exact absurd hk (Nat.not_lt_zero k)
  -- a byte in the font would have been the reason for a fault
  rintro ⟨hlow, hhigh⟩
  have hl : 0 < i.access.length := by omega
  exact not_meetsFont_of_fault?_eq_none h hl hw
    ⟨fits_of_fault?_eq_none h hl, _, Nat.le_add_right _ k, by omega, hlow, hhigh⟩

theorem sameFont_perform {s : State} {i : Instruction} (h : s.fault? i = none) :
    s.SameFont (s.perform i) := by
  intro a hlow hhigh
  rw [perform_memory, Memory.read_writeAll_eq_iff _ _ _ (by omega)]
  rintro k b hb rfl
  exact absurd ⟨hlow, hhigh⟩ (stores_apart h hb)

theorem sameFont_execute (s : State) (w : Word) : s.SameFont (s.execute w) := by
  rw [execute_eq]
  rcases hf : s.fault? (Instruction.ofWord w) with - | f
  · exact sameFont_perform (s := s.withStatus .ok) hf
  · exact .refl s

/-! ### Operations -/

theorem sameFont_step (s : State) : s.SameFont s.step := by
  cases s.step_view with
  | halted hs ht => exact .of_memory_eq (by rw [ht])
  | faulted f hs hf ht => exact .of_memory_eq (by rw [ht])
  | executed hs hf hp ht hh =>
    -- no fault of the cycle is none of the instruction
    have hnone : s.fault? (Instruction.ofWord s.word) = none := by
      rcases hr : s.fault? (Instruction.ofWord s.word) with - | f
      · rfl
      · exact absurd (.execute hp (refuses_of_fault? hr)) (hf f)
    rw [ht]
    exact sameFont_perform (s := s.begun) hnone

theorem sameFont_run (s : State) (n : Nat) : s.SameFont (s.run n).1 := by
  induction n generalizing s with
  | zero => exact .refl s
  | succ n ih => exact s.sameFont_step.trans (ih s.step)

/-- A program is stored behind the font. -/
theorem sameFont_act (s : State) (a : Action) : s.SameFont (s.act a) := by
  cases a with
  | step => exact s.sameFont_step
  | load program =>
    obtain ⟨bytes, hm⟩ := s.accept_loadProgram program
    intro a hlow hhigh
    rw [act, hm]
    show (s.memory.writeAll 0x200 bytes).read a = s.memory.read a
    rw [Memory.read_writeAll _ _ _ _ (by omega), if_neg (by omega)]
  | press key =>
    obtain ⟨keypad, hk⟩ := s.accept_setKeyNamed key true
    exact .of_memory_eq (by rw [act, pressKey, hk])
  | release key =>
    obtain ⟨keypad, hk⟩ := s.accept_setKeyNamed key false
    exact .of_memory_eq (by rw [act, releaseKey, hk])

/-- What can be done to a state. -/
inductive Operation
  /-- An action of a host. -/
  | act (a : Action)
  /-- Execute the word in the low sixteen bits of an integer. -/
  | execute (word : Int32)
  /-- Run a number of cycles. -/
  | run (n : Nat)

/-- The state after an operation. -/
def operate (s : State) : Operation → State
  | .act a => s.act a
  | .execute word => s.execute (Word.ofInt word.toInt)
  | .run n => (s.run n).1

/-- The state after several operations, the first one first. -/
def operateAll (s : State) (operations : List Operation) : State :=
  operations.foldl operate s

theorem sameFont_operate (s : State) (o : Operation) : s.SameFont (s.operate o) := by
  cases o with
  | act a => exact s.sameFont_act a
  | execute word => exact s.sameFont_execute _
  | run n => exact s.sameFont_run n

theorem sameFont_operateAll (s : State) (operations : List Operation) :
    s.SameFont (s.operateAll operations) := by
  induction operations generalizing s with
  | nil => exact .refl s
  | cons o rest ih => exact (s.sameFont_operate o).trans (ih (s.operate o))

/-! ### The font in place -/

/-- The eighty bytes from `0x050` on. -/
def font (s : State) : List UInt8 :=
  s.memory.block 0x050 80

theorem SameFont.font_eq {s t : State} (h : s.SameFont t) : t.font = s.font :=
  Memory.block_congr h

theorem font_initial (rng : Key) : (State.initial rng).font = Font.data := by
  have h : Memory.fontStart + Font.data.length ≤ 4096 := by decide
  exact Memory.zero.block_writeAll h

theorem font_operateAll (rng : Key) (operations : List Operation) :
    ((State.initial rng).operateAll operations).font = Font.data := by
  rw [((State.initial rng).sameFont_operateAll operations).font_eq, font_initial]

/-- With the font in place, the glyph of a digit stands at its address. -/
theorem block_glyphAddress {s : State} (h : s.font = Font.data) (digit : Nibble) :
    s.memory.block (Font.glyphAddress digit) 5 = Font.glyph digit := by
  rw [Font.glyph, ← h, font, Font.glyphSize, Memory.take_drop_block _ (by omega)]
  rfl

/-! ### Looking up a digit -/

/-- `FX29` has just been executed from `s`, with the digit in the register `x`. -/
inductive LooksUp (s : State) : Nibble → State → Prop
  | execute (w : Word) (hw : w &&& 0xF0FF = 0xF029) : LooksUp s w.x (s.execute w)
  | step (hs : s.halted = false) (hp : s.pc.toNat ≤ 0xFFE) (hw : s.word &&& 0xF0FF = 0xF029) :
    LooksUp s s.word.x s.step

theorem ofWord_eq_fontCharacter {w : Word} (h : w &&& 0xF0FF = 0xF029) :
    Instruction.ofWord w = .fontCharacter w.x := by
  have ho : Opcode.ofWord w = .fontCharacter := (Opcode.ofWord_eq_iff (by decide) w).mpr h
  simp only [Instruction.ofWord, ho]

theorem fault?_fontCharacter (s : State) (x : Nibble) : s.fault? (.fontCharacter x) = none :=
  fault?_of_no_access (by simp) (by simp) rfl

/-- Looking up a digit points `I` at its glyph and leaves memory and registers alone. -/
theorem LooksUp.effect {s t : State} {x : Nibble} (h : s.LooksUp x t) :
    t.index = UInt16.ofNat (Font.glyphAddress (Nibble.ofByte (s.register x))) ∧
      t.memory = s.memory ∧ t.registers = s.registers := by
  cases h with
  | execute w hw =>
    rw [execute_eq, ofWord_eq_fontCharacter hw, fault?_fontCharacter]
    exact ⟨rfl, rfl, rfl⟩
  | step hs hp hw =>
    rw [(step_eq_perform hs hp (ofWord_eq_fontCharacter hw) (s.fault?_fontCharacter _)).1]
    exact ⟨rfl, rfl, rfl⟩

theorem toNat_glyphAddress (digit : Nibble) :
    (UInt16.ofNat (Font.glyphAddress digit)).toNat = 0x050 + 5 * digit.val := by
  have h : Font.glyphAddress digit < 65536 := by
    rw [Font.glyphAddress, Memory.fontStart, Font.glyphSize]
    omega
  exact UInt16.toNat_ofNat_of_lt h

theorem LooksUp.toNat_index {s t : State} {x : Nibble} (h : s.LooksUp x t) :
    t.index.toNat = 0x050 + 5 * ((s.register x).toNat % 16) := by
  rw [h.effect.1, toNat_glyphAddress]
  rfl

/-- No sprite from a glyph on reaches the end of memory. -/
theorem LooksUp.status_execute_draw {s t : State} {x : Nibble} (h : s.LooksUp x t) {w : Word}
    (hw : w &&& 0xF000 = 0xD000) : (t.execute w).status = .ok := by
  have hi := Instruction.ofWord_of_draw hw
  have hnone : t.fault? (.draw w.x w.y w.n) = none := by
    rcases hf : t.fault? (.draw w.x w.y w.n) with - | f
    · rfl
    · have hindex := h.toNat_index
      have hn : w.n.val < 16 := w.n.isLt
      obtain ⟨-, ⟨-, hp⟩ | ⟨-, hwrites, -⟩⟩ := (t.fault?_access (by simp) (by simp) f).mp hf
      · simp only [Instruction.access] at hp
        omega
      · cases hwrites
  rw [execute_eq, hi, hnone]
  exact perform_status _ _

/-! ### Integrity of the font -/

/-- **The font stays intact.**  No operation changes a byte of the font, whatever the state.  After
looking up a digit, `I` is the address of its glyph and a draw does not fault.  Where a run of
operations from the initial state led, the font is as it was loaded, and the five bytes at `I` after
looking up a digit are its glyph. -/
theorem font_integrity (s : State) :
    (∀ o a, 0x050 ≤ a → a < 0x0A0 → (s.operate o).memory.read a = s.memory.read a) ∧
      (∀ x t, s.LooksUp x t →
        t.registers = s.registers ∧ t.index.toNat = 0x050 + 5 * ((s.register x).toNat % 16) ∧
          ∀ w, w &&& 0xF00F = 0xD005 → (t.execute w).status = .ok) ∧
      (∀ rng operations, s = (State.initial rng).operateAll operations →
        s.memory.block 0x050 80 = Font.data ∧
          ∀ x t, s.LooksUp x t →
            t.memory.block t.index.toNat 5 = Font.glyph (Nibble.ofByte (s.register x))) := by
  refine ⟨s.sameFont_operate, fun x t h => ⟨h.effect.2.2, h.toNat_index, fun w hw => ?_⟩,
    fun rng operations hs => ?_⟩
  · refine h.status_execute_draw ?_
    -- the mask of a draw is a part of the mask given
    have hmask : w &&& 0xF000 = (w &&& 0xF00F) &&& 0xF000 := by
      rw [UInt16.and_assoc]
      rfl
    rw [hmask, hw]
    rfl
  · have hfont : s.font = Font.data := hs ▸ font_operateAll rng operations
    refine ⟨hfont, fun x t h => ?_⟩
    rw [h.effect.2.1, h.effect.1, toNat_glyphAddress]
    exact block_glyphAddress hfont _

/-- `601A` executed, and `F029` next. -/
def digitLoaded : State :=
  (loaded [0x60, 0x1A, 0xF0, 0x29]).step

theorem digitLoaded_eq :
    digitLoaded = ((loaded [0x60, 0x1A, 0xF0, 0x29]).begun.perform (.set 0 0x1A)).tickTimers ∧
      digitLoaded.halted = false :=
  step_loaded (by decide) (by decide) (by decide) (by decide)

theorem looksUp_digitLoaded : digitLoaded.LooksUp 0 digitLoaded.step := by
  obtain ⟨heq, hs⟩ := digitLoaded_eq
  rw [loaded_eq [0x60, 0x1A, 0xF0, 0x29] (by decide)] at heq
  have hp : digitLoaded.pc = 0x202 := by
    rw [heq]
    rfl
  have hw : digitLoaded.word = 0xF029 := by
    rw [heq, word_writeAll (i := 2) rfl rfl (by decide) (by decide)]
    decide
  have hx : digitLoaded.word.x = 0 := by
    rw [hw]
    decide
  rw [← hx]
  exact .step hs (by rw [hp]; decide) (by rw [hw]; decide)

/-- The digit is the low nibble of `1A`: its glyph is that of `A`, and it can be drawn. -/
theorem font_integrity_digitLoaded :
    digitLoaded.LooksUp 0 digitLoaded.step ∧ digitLoaded.step.index.toNat = 0x082 ∧
      digitLoaded.step.memory.block 0x082 5 = [0xF0, 0x90, 0xF0, 0x90, 0x90] ∧
      (digitLoaded.step.execute 0xD125).status = .ok := by
  have hlook := looksUp_digitLoaded
  have hreach : digitLoaded = (State.initial ⟨0, 0⟩).operateAll
      [.act (.load (.buffer .fixed [0x60, 0x1A, 0xF0, 0x29])), .run 1] := by
    rw [digitLoaded, loaded, operateAll, List.foldl_cons, List.foldl_cons, List.foldl_nil, operate,
      operate, run, run]
  obtain ⟨-, hafter, hglyph⟩ := font_integrity digitLoaded
  obtain ⟨-, hindex, hdraw⟩ := hafter 0 _ hlook
  have hg := (hglyph ⟨0, 0⟩ _ hreach).2 0 _ hlook
  have hv : digitLoaded.register 0 = 0x1A := by
    rw [digitLoaded_eq.1]
    rfl
  rw [hv] at hindex hg
  have hi : digitLoaded.step.index.toNat = 0x082 := hindex
  rw [hi] at hg
  exact ⟨hlook, hi, hg, hdraw 0xD125 (by decide)⟩

end Chip8.State
