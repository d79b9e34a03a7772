import Chip8.Instruction

/-!
The recognition table read as a specification.  The entries of `Opcode.patterns` exclude one
another, so the table can be read entry by entry, in any order:

* `Opcode.ofWord_eq_iff` — a word is of the kind of an entry exactly when its masked bits are the
  pattern of that entry;
* `Opcode.ofWord_eq_unimplemented_iff` — a word is of no kind exactly when it matches no entry.

Both turn a statement about `Opcode.ofWord` into one about the bits of the word.  The last section
reads off the operands of some words that many modules are about.
-/

namespace Chip8

/-! ### Disjoint patterns -/

/-- The bit on which two disjoint patterns differ would have to be both set and clear in a common
match. -/
theorem Pattern.matches_eq_false_of_disjoint {p q : Pattern} (hd : p.disjoint q = true) {w : Word}
    (hp : p.matches w = true) : q.matches w = false := by
  rw [Bool.eq_false_iff]
  intro hq
  have ep : w &&& p.mask = p.bits := by simpa [Pattern.matches] using hp
  have eq : w &&& q.mask = q.bits := by simpa [Pattern.matches] using hq
  have hz : (p.mask &&& q.mask) &&& (p.bits ^^^ q.bits) = 0 := by
    rw [← ep, ← eq]
    apply UInt16.toBitVec_inj.1
    ext i hi
    simp only [UInt16.toBitVec_and, UInt16.toBitVec_xor, BitVec.getElem_and, BitVec.getElem_xor]
    cases p.mask.toBitVec[i] <;> cases q.mask.toBitVec[i] <;> cases w.toBitVec[i] <;> simp
  simp [Pattern.disjoint, hz] at hd

namespace Opcode

/-- No two entries of the table are for the same kind. -/
theorem patterns_opcode_injective :
    ∀ p ∈ patterns, ∀ q ∈ patterns, p.opcode = q.opcode → p = q := by
  decide

/-- No entry of the table is for unimplemented words. -/
theorem patterns_opcode_ne_unimplemented : ∀ p ∈ patterns, p.opcode ≠ unimplemented := by
  decide

/-! ### Reading the table entry by entry -/

/-- The first entry that a word matches is the only one. -/
theorem find?_patterns {p : Pattern} (hp : p ∈ patterns) {w : Word} (hm : p.matches w = true) :
    patterns.find? (·.matches w) = some p := by
  rcases hf : patterns.find? (·.matches w) with - | q
  · exact absurd hm (List.find?_eq_none.mp hf p hp)
  · obtain ⟨hq, before, after, he, hb⟩ := List.find?_eq_some_iff_append.mp hf
    have hd := patterns_disjoint
    rw [he, List.pairwise_append, List.pairwise_cons] at hd
    rw [he, List.mem_append, List.mem_cons] at hp
    rcases hp with hp | rfl | hp
    · -- `p` stands before the first match
      exact absurd hm (by simpa using hb p hp)
    · exact hf
    · -- `p` stands behind the first match, which excludes it
      have hc := Pattern.matches_eq_false_of_disjoint (hd.2.1.1 p hp) hq
      rw [hc] at hm
      cases hm

/-- A word is of the kind of an entry exactly when it matches that entry. -/
theorem ofWord_eq_opcode_iff {p : Pattern} (hp : p ∈ patterns) (w : Word) :
    ofWord w = p.opcode ↔ p.matches w = true := by
  constructor
  · intro h
    unfold ofWord at h
    rcases hf : patterns.find? (·.matches w) with - | q
    · rw [hf] at h
      exact absurd h.symm (patterns_opcode_ne_unimplemented p hp)
    · -- the first match is of the kind of `p`, so it is `p`
      rw [hf] at h
      have hq : q.matches w = true := List.find?_some (p := fun r : Pattern => r.matches w) hf
      have he : q = p := patterns_opcode_injective q (List.mem_of_find?_eq_some hf) p hp h
      exact he ▸ hq
  · intro hm
    rw [ofWord, find?_patterns hp hm]

/-- A word is of the kind of an entry exactly when its masked bits are the pattern. -/
theorem ofWord_eq_iff {mask bits : Word} {o : Opcode} (h : ⟨mask, bits, o⟩ ∈ patterns) (w : Word) :
    ofWord w = o ↔ w &&& mask = bits := by
  rw [ofWord_eq_opcode_iff h w, Pattern.matches, beq_iff_eq]

/-- Words of several kinds with one mask have under it one of the bits these kinds have. -/
theorem and_mask_mem {kinds : List Opcode} {mask : Word} {bits : List Word}
    (h : ∀ o ∈ kinds, ∃ b ∈ bits, ⟨mask, b, o⟩ ∈ patterns) {w : Word} (hw : ofWord w ∈ kinds) :
    w &&& mask ∈ bits := by
  obtain ⟨b, hb, hp⟩ := h _ hw
  rw [(ofWord_eq_iff hp w).mp rfl]
  exact hb

/-- `00E0` is the one word that clears the screen. -/
theorem ofWord_eq_clearScreen_iff (w : Word) : ofWord w = clearScreen ↔ w = 0x00E0 := by
  have hm : w &&& 0xFFFF = w := UInt16.and_neg_one
  rw [ofWord_eq_iff (show ⟨0xFFFF, 0x00E0, clearScreen⟩ ∈ patterns by decide), hm]

/-- `00EE` is the one word that returns. -/
theorem ofWord_eq_ret_iff (w : Word) : ofWord w = ret ↔ w = 0x00EE := by
  have hm : w &&& 0xFFFF = w := UInt16.and_neg_one
  rw [ofWord_eq_iff (show ⟨0xFFFF, 0x00EE, ret⟩ ∈ patterns by decide), hm]

/-- A word is of no kind exactly when it matches no entry. -/
theorem ofWord_eq_unimplemented_iff (w : Word) :
    ofWord w = unimplemented ↔ ∀ p ∈ patterns, p.matches w = false := by
  constructor
  · intro h p hp
    rw [Bool.eq_false_iff]
    intro hm
    have hk := (ofWord_eq_opcode_iff hp w).mpr hm
    exact patterns_opcode_ne_unimplemented p hp (hk.symm.trans h)
  · intro h
    have hf : patterns.find? (·.matches w) = none := by
      rw [List.find?_eq_none]
      intro p hp
      rw [h p hp]
      exact Bool.false_ne_true
    rw [ofWord, hf]

end Opcode

/-! ### Words of calls, draws and block transfers -/

namespace Instruction

variable {w : Word}

theorem ofWord_of_call (hw : w &&& 0xF000 = 0x2000) : ofWord w = .call w.nnn := by
  have ho : Opcode.ofWord w = .call := (Opcode.ofWord_eq_iff (by decide) w).mpr hw
  rw [ofWord, ho]

theorem ofWord_of_draw (hw : w &&& 0xF000 = 0xD000) : ofWord w = .draw w.x w.y w.n := by
  have ho : Opcode.ofWord w = .draw := (Opcode.ofWord_eq_iff (by decide) w).mpr hw
  rw [ofWord, ho]

theorem ofWord_of_bcd (hw : w &&& 0xF0FF = 0xF033) : ofWord w = .bcdConversion w.x := by
  have ho : Opcode.ofWord w = .bcdConversion := (Opcode.ofWord_eq_iff (by decide) w).mpr hw
  rw [ofWord, ho]

theorem ofWord_of_store (hw : w &&& 0xF0FF = 0xF055) : ofWord w = .storeRegisters w.x := by
  have ho : Opcode.ofWord w = .storeRegisters := (Opcode.ofWord_eq_iff (by decide) w).mpr hw
  rw [ofWord, ho]

theorem ofWord_of_load (hw : w &&& 0xF0FF = 0xF065) : ofWord w = .loadRegisters w.x := by
  have ho : Opcode.ofWord w = .loadRegisters := (Opcode.ofWord_eq_iff (by decide) w).mpr hw
  rw [ofWord, ho]

end Instruction

end Chip8
