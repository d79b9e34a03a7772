import Chip8.CallStack

/-!
The call stack as a list.  `CallStack.Holds s l` says that the addresses of `l`, oldest first, are
what the stack holds: the pointer is the length of `l`, the slots below it are the entries of `l`,
and the slots from it on are zero.

A push appends to the list and a pop takes its last entry off (`Holds.push`, `Holds.pop`), as long
as the guards `isFull` and `isEmpty` fail.  A stack is determined by the list it holds
(`Holds.unique`), so two stacks that hold the same list agree in the pointer and in all slots.

`pop_push` is about a stack that need not hold a list: a push and the pop after it leave all but one
slot as it was.
-/

namespace Chip8.CallStack

/-- The stack holds the addresses of a list, oldest first, and zeros above them. -/
structure Holds (s : CallStack) (l : List UInt16) : Prop where
  pointer : s.pointer.toInt = l.length
  fits : l.length ≤ 16
  slots : ∀ k (h : k < 16), s.slots[k] = l[k]?.getD 0

variable {s t : CallStack} {l : List UInt16} {a : UInt16}

theorem holds_empty : empty.Holds [] := by
  refine ⟨rfl, Nat.zero_le 16, fun k h => ?_⟩
  rw [List.getElem?_nil]
  exact Vector.getElem_replicate h

/-- The list a stack holds determines the stack. -/
theorem Holds.unique (hs : s.Holds l) (ht : t.Holds l) : s = t := by
  have hslots : s.slots = t.slots := by
    apply Vector.ext
    intro k hk
    rw [hs.slots k hk, ht.slots k hk]
  have hpointer : s.pointer = t.pointer :=
    Int32.toInt_inj.mp (hs.pointer.trans ht.pointer.symm)
  cases s
  cases t
  simp only at hslots hpointer
  rw [hslots, hpointer]

/-! ### Guards -/

theorem Holds.pointer_le_zero_iff (h : s.Holds l) : s.pointer ≤ 0 ↔ l = [] := by
  have h0 : (0 : Int32).toInt = 0 := rfl
  rw [Int32.le_iff_toInt_le, h.pointer, h0, ← List.length_eq_zero_iff]
  omega

theorem Holds.le_pointer_iff (h : s.Holds l) : 16 ≤ s.pointer ↔ l.length = 16 := by
  have h16 : (16 : Int32).toInt = 16 := rfl
  have hfits := h.fits
  rw [Int32.le_iff_toInt_le, h.pointer, h16]
  omega

/-! ### Push and pop -/

/-- Within the capacity, storing at a signed index stores at that slot. -/
theorem setSlot_of_lt {k : Nat} {i : Int} (hi : i = k) (hk : k < 16) :
    s.setSlot i a = { s with slots := s.slots.setIfInBounds k a } := by
  rw [setSlot, hi, Cell.within?_of_lt hk]

/-- A push appends the low twelve bits of the address. -/
theorem Holds.push (h : s.Holds l) (hl : l.length < 16) :
    (s.push a).Holds (l ++ [a &&& 0xFFF]) := by
  rw [CallStack.push, setSlot_of_lt h.pointer hl]
  refine ⟨?_, ?_, fun k hk => ?_⟩
  · have h1 : (1 : Int32).toInt = 1 := rfl
    rw [Int32.toInt_add, h.pointer, h1, List.length_append, List.length_singleton,
      Int.bmod_eq_of_le (by omega) (by omega)]
    rfl
  · rw [List.length_append, List.length_singleton]
    omega
  · -- a slot below the pointer, the one at it, or one above
    simp only [Vector.getElem_setIfInBounds]
    rcases Nat.lt_trichotomy k l.length with hlt | heq | hgt
    · rw [if_neg (by omega), h.slots k hk, List.getElem?_append_left hlt]
    · rw [if_pos heq.symm, heq, List.getElem?_concat_length]
      rfl
    · rw [if_neg (by omega), h.slots k hk, List.getElem?_eq_none (by omega),
        List.getElem?_eq_none (by rw [List.length_append, List.length_singleton]; omega)]

/-- A pop takes the last address off, clears its slot and answers with it. -/
theorem Holds.pop (h : s.Holds (l ++ [a])) : s.pop.1 = a ∧ s.pop.2.Holds l := by
  have hlen : (l ++ [a]).length = l.length + 1 := by
    rw [List.length_append, List.length_singleton]
  have hl : l.length < 16 := by
    have hfits := h.fits
    omega
  -- the slot to clear is the last one taken
  have htop : (s.pointer - 1).toInt = l.length := by
    have h1 : (1 : Int32).toInt = 1 := rfl
    rw [Int32.toInt_sub, h.pointer, h1, hlen, Int.bmod_eq_of_le (by omega) (by omega)]
    omega
  rw [CallStack.pop]
  refine ⟨?_, ?_⟩
  · simp only [slotAt, htop, Cell.nearest_of_lt hl]
    rw [h.slots _ hl, List.getElem?_concat_length]
    rfl
  · simp only [setSlot_of_lt htop hl]
    refine ⟨htop, by omega, fun k hk => ?_⟩
    simp only [Vector.getElem_setIfInBounds]
    rcases Nat.lt_trichotomy k l.length with hlt | heq | hgt
    · rw [if_neg (by omega), h.slots k hk, List.getElem?_append_left hlt]
    · rw [if_pos heq.symm, heq, List.getElem?_eq_none (Nat.le_refl _)]
      rfl
    · rw [if_neg (by omega), h.slots k hk, List.getElem?_eq_none (by omega),
        List.getElem?_eq_none (by omega)]

/-- A pop undoes a push: it answers with the low twelve bits of the address, and leaves the slot
that the push filled cleared. -/
theorem pop_push (hlow : 0 ≤ s.pointer) (hhigh : s.pointer ≤ 15) (a : UInt16) :
    (s.push a).pop = (a &&& 0xFFF, s.setSlot s.pointer.toInt 0) := by
  have h0 : (0 : Int32).toInt = 0 := rfl
  have h15 : (15 : Int32).toInt = 15 := rfl
  rw [Int32.le_iff_toInt_le, h0] at hlow
  rw [Int32.le_iff_toInt_le, h15] at hhigh
  obtain ⟨k, hk⟩ := Int.eq_ofNat_of_zero_le hlow
  have hlt : k < 16 := by omega
  have hpush : s.push a = ⟨s.slots.setIfInBounds k (a &&& 0xFFF), s.pointer + 1⟩ := by
    rw [push, setSlot_of_lt hk hlt]
  -- the pointer comes back to the slot that the push has filled
  have htop : s.pointer + 1 - 1 = s.pointer := Int32.add_sub_cancel _ _
  rw [hpush, pop]
  refine Prod.ext ?_ ?_
  · simp only [htop, hk, slotAt, Cell.nearest_of_lt hlt, Vector.getElem_setIfInBounds_self]
  · simp only [htop, setSlot_of_lt hk hlt, Vector.setIfInBounds_setIfInBounds]

/-- A push leaves an address to pop. -/
theorem not_pointer_push_le_zero (hlow : 0 ≤ s.pointer) (hhigh : s.pointer ≤ 15) (a : UInt16) :
    ¬(s.push a).pointer ≤ 0 := by
  have h0 : (0 : Int32).toInt = 0 := rfl
  have h1 : (1 : Int32).toInt = 1 := rfl
  have h15 : (15 : Int32).toInt = 15 := rfl
  rw [Int32.le_iff_toInt_le, h0] at hlow
  rw [Int32.le_iff_toInt_le, h15] at hhigh
  show ¬s.pointer + 1 ≤ 0
  rw [Int32.le_iff_toInt_le, Int32.toInt_add, h0, h1, Int.bmod_eq_of_le (by omega) (by omega)]
  omega

/-- A store in a slot leaves the pointer alone. -/
theorem pointer_setSlot (s : CallStack) (i : Int) (a : UInt16) :
    (s.setSlot i a).pointer = s.pointer := by
  rw [setSlot]
  split
  · rfl
  · rfl

end Chip8.CallStack
