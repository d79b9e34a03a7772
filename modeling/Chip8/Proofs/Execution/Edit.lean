import Chip8.Proofs.Execution.Effect

/-!
Edits of the parts of a state that few instructions look at: memory, display, keypad and random key.
`State.edit` applies an edit, and `Edit.Unseen e s i` says that the instruction `i`, started from
`s`, looks at no part that the edit changes:

* a random instruction asks for the random key, a test or wait for a key asks for the keypad, a
  clear or draw asks for the display;
* of memory an instruction asks for the bytes of its access, to read them or to store them.

The equation of this file, `perform_edit`, is that such an instruction and the edit commute.
-/

namespace Chip8

/-- A change of memory, display, keypad and random key. -/
structure Edit where
  memory : Memory → Memory := id
  display : Display → Display := id
  keypad : Vector Bool 16 → Vector Bool 16 := id
  rng : Key → Key := id

/-- The state after an edit. -/
def State.edit (s : State) (e : Edit) : State :=
  { s with
    memory := e.memory s.memory
    display := e.display s.display
    keypad := e.keypad s.keypad
    rng := e.rng s.rng }

/-- The kinds of instruction that look at the keypad. -/
def Opcode.keyed : List Opcode :=
  [skipIfKey, skipIfNotKey, waitForKey]

/-- An instruction started from `s` looks at nothing that the edit changes. -/
structure Edit.Unseen (e : Edit) (s : State) (i : Instruction) : Prop where
  rng : i.opcode = .random → e.rng = id
  keypad : i.opcode ∈ Opcode.keyed → e.keypad s.keypad = s.keypad
  display : i.opcode = .clearScreen ∨ i.opcode = .draw → e.display = id
  read : ∀ k < i.access.length,
    (e.memory s.memory).read (s.index.toNat + k) = s.memory.read (s.index.toNat + k)
  store : e.memory (s.memory.writeAll s.index.toNat (s.stores i)) =
    (e.memory s.memory).writeAll s.index.toNat (s.stores i)

namespace State

variable (s : State) (e : Edit)

/-- The test for faults looks at `I` and the stack. -/
theorem fault?_edit (i : Instruction) : (s.edit e).fault? i = s.fault? i := by
  cases i <;> rfl

theorem setOutcome_edit (x : Nibble) (o : Alu.Outcome) :
    (s.edit e).setOutcome x o = (s.setOutcome x o).edit e := by
  unfold setOutcome
  split <;> rfl

variable {s e}

theorem keyDown_edit (h : e.keypad s.keypad = s.keypad) : (s.edit e).keyDown = s.keyDown := by
  funext k
  simp only [keyDown, edit, h]

theorem holds_edit {c : Condition} (h : e.Unseen s (.skip c)) :
    (s.edit e).holds c = s.holds c := by
  cases c with
  | keyDown x | keyUp x =>
    rw [holds, keyDown_edit (h.keypad (List.mem_of_elem_eq_true rfl))]
    rfl
  | _ => rfl

theorem sprite_edit {x y height : Nibble} (h : e.Unseen s (.draw x y height)) :
    (s.edit e).sprite x y height = s.sprite x y height := by
  unfold sprite
  congr 1
  exact List.map_congr_left fun k hk => h.read k (List.mem_range.mp hk)

/-- An instruction and an edit it does not see commute. -/
theorem perform_edit {i : Instruction} (h : e.Unseen s i) :
    (s.edit e).perform i = (s.perform i).edit e := by
  cases i with
  | clearScreen =>
    have hd : e.display = id := h.display (.inl rfl)
    simp only [perform, edit, hd, id]
  | skip c =>
    simp only [perform, holds_edit h]
    split <;> rfl
  | alu operation x y => exact s.setOutcome_edit e x _
  | random x mask =>
    -- the draw replaces the key, so only an edit that leaves every key alone goes unseen
    have hr : e.rng = id := h.rng rfl
    simp only [perform, edit, hr, id, setRegister]
  | draw x y height =>
    have hd : e.display = id := h.display (.inr rfl)
    simp only [perform, sprite_edit h]
    simp only [edit, hd, id, setRegister]
  | waitForKey x =>
    have hk := keyDown_edit (h.keypad (List.mem_of_elem_eq_true rfl))
    have hl : (s.edit e).lowestKeyDown? = s.lowestKeyDown? := by
      rw [lowestKeyDown?, hk, lowestKeyDown?]
    simp only [perform, hl]
    rcases s.lowestKeyDown? with - | k <;> rfl
  | bcdConversion x =>
    have hs := h.store
    simp only [stores, register] at hs
    simp only [perform, edit, register, hs]
  | storeRegisters x =>
    have hs := h.store
    simp only [stores, registersUpTo] at hs
    simp only [perform, edit, registersUpTo, hs]
  | loadRegisters x =>
    -- every lane asks for its byte of memory, but those past `VX` throw it away
    have hread (k : Fin 16) (hk : k ≤ x) :
        (e.memory s.memory).read (s.index.toNat + k) = s.memory.read (s.index.toNat + k) :=
      h.read k (Nat.lt_succ_of_le hk)
    simp only [perform, edit, register]
    congr 2
    funext k
    split
    · rename_i hk
      exact hread k hk
    · rfl
  | _ => rfl

end State

end Chip8
