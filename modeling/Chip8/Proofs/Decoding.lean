import Chip8.Proofs.Recognition
import Mathlib.Data.Int.Bitwise

/-!
Decoding of integers.  Where a word is looked at outside of a cycle it need not be a word at all, but
an integer of any size and sign, and masks act on its two's complement:

* `Fields.ofInt` — the operand fields, as slices of the integer;
* `Pattern.matchesInt` and `Opcode.ofInt` — the table read on the integer, first match first.

A mask of sixteen bits sees nothing but the word in the low sixteen bits (`Word.land_natCast`), so
all of this is what `Word` and `Opcode.ofWord` make of that word: `Fields.ofInt_eq`,
`Pattern.matchesInt_eq` and `Opcode.ofInt_eq`.  At most one entry of the table matches an integer
(`Opcode.length_filter_matchesInt`), so the last match is the first one (`Opcode.lastMatch_eq`).
-/

namespace Chip8

/-! ### Masks -/

namespace Word

theorem toNat_ofInt (i : Int) : ((ofInt i).toNat : Int) = i % 65536 := by
  have h : (ofInt i).toNat = (i % 2 ^ 16).toNat % 2 ^ 16 := UInt16.toNat_ofNat'
  omega

/-- The word of an integer depends on its remainder only. -/
theorem ofInt_emod (i : Int) : ofInt (i % 65536) = ofInt i := by
  apply UInt16.toNat_inj.mp
  have h := toNat_ofInt i
  have h' := toNat_ofInt (i % 65536)
  omega

/-- What a mask leaves of the complement of a number. -/
theorem ldiff_eq {m : Nat} (hm : m < 2 ^ 16) (a : Nat) :
    Nat.ldiff m a = (2 ^ 16 - (a % 2 ^ 16 + 1)) &&& m := by
  apply Nat.eq_of_testBit_eq
  intro k
  rw [Nat.testBit_ldiff, Nat.testBit_and,
    Nat.testBit_two_pow_sub_succ (Nat.mod_lt _ (by decide)), Nat.testBit_mod_two_pow]
  by_cases hk : k < 16
  · simp [hk, Bool.and_comm]
  · have hpow : 2 ^ 16 ≤ 2 ^ k := Nat.pow_le_pow_right (by decide) (Nat.le_of_not_lt hk)
    have hzero : m.testBit k = false := Nat.testBit_lt_two_pow (Nat.lt_of_lt_of_le hm hpow)
    simp [hk, hzero]

/-- A mask of sixteen bits sees the low sixteen bits and nothing else. -/
theorem land_natCast (i : Int) {m : Nat} (hm : m < 2 ^ 16) :
    Int.land i m = ((ofInt i).toNat &&& m : Nat) := by
  have hi := toNat_ofInt i
  -- a negative integer is the complement of a number, and its mask a difference
  cases i with
  | ofNat a =>
    rw [Int.ofNat_eq_natCast] at hi ⊢
    have ha : (ofInt a).toNat = a % 2 ^ 16 := by omega
    have hle : a &&& m < 2 ^ 16 := Nat.lt_of_le_of_lt Nat.and_le_right hm
    have hmod := Nat.and_mod_two_pow (a := a) (b := m) (n := 16)
    rw [Nat.mod_eq_of_lt hle, Nat.mod_eq_of_lt hm] at hmod
    rw [ha, ← hmod]
    rfl
  | negSucc a =>
    have ha : (ofInt (Int.negSucc a)).toNat = 2 ^ 16 - (a % 2 ^ 16 + 1) := by omega
    rw [ha, ← ldiff_eq hm]
    rfl

/-- A slice of an integer: the bits under a run of ones, moved to the low end. -/
theorem land_shiftRight (i : Int) (shift width : Nat) (h : (2 ^ width - 1) <<< shift < 2 ^ 16) :
    Int.land i ((2 ^ width - 1) <<< shift : Nat) >>> shift =
      ((ofInt i).toNat / 2 ^ shift % 2 ^ width : Nat) := by
  rw [land_natCast i h]
  show ((((ofInt i).toNat &&& (2 ^ width - 1) <<< shift) >>> shift : Nat) : Int) = _
  rw [Nat.shiftRight_and_distrib, Nat.shiftLeft_shiftRight, Nat.and_two_pow_sub_one_eq_mod,
    Nat.shiftRight_eq_div_pow]

end Word

/-! ### Fields -/

/-- The fields of an instruction word that need not be a word. -/
structure Fields where
  raw : Int
  family : Int
  x : Int
  y : Int
  n : Int
  nn : Int
  nnn : Int

namespace Fields

/-- The fields of an integer of any size and sign. -/
def ofInt (i : Int) : Fields where
  raw := i
  family := Int.land i 0xF000 >>> (12 : Nat)
  x := Int.land i 0x0F00 >>> (8 : Nat)
  y := Int.land i 0x00F0 >>> (4 : Nat)
  n := Int.land i 0x000F
  nn := Int.land i 0x00FF
  nnn := Int.land i 0x0FFF

/-- The fields of an integer are those of the word in its low sixteen bits. -/
theorem ofInt_eq (i : Int) :
    ofInt i =
      let w := Word.ofInt i
      ⟨i, w.family.val, w.x.val, w.y.val, w.n.val, w.nn.toNat, w.nnn.val⟩ := by
  have hnn : (Word.ofInt i).nn.toNat = (Word.ofInt i).toNat % 256 := UInt8.toNat_ofNat'
  have hfamily : Int.land i 0xF000 >>> (12 : Nat) = _ :=
    Word.land_shiftRight i 12 4 (by decide)
  have hx : Int.land i 0x0F00 >>> (8 : Nat) = _ :=
    Word.land_shiftRight i 8 4 (by decide)
  have hy : Int.land i 0x00F0 >>> (4 : Nat) = _ :=
    Word.land_shiftRight i 4 4 (by decide)
  have hn : Int.land i 0x000F >>> (0 : Nat) = _ :=
    Word.land_shiftRight i 0 4 (by decide)
  have hlow : Int.land i 0x00FF >>> (0 : Nat) = _ :=
    Word.land_shiftRight i 0 8 (by decide)
  have hnnn : Int.land i 0x0FFF >>> (0 : Nat) = _ :=
    Word.land_shiftRight i 0 12 (by decide)
  -- the lowest slices are not moved
  rw [Int.shiftRight_zero, pow_zero, Nat.div_one] at hn hlow hnnn
  simp only [ofInt, hfamily, hx, hy, hn, hlow, hnnn, hnn]
  rfl

end Fields

/-! ### Recognition -/

/-- An integer matches when its masked bits are the pattern. -/
def Pattern.matchesInt (p : Pattern) (i : Int) : Bool :=
  Int.land i p.mask.toNat == p.bits.toNat

theorem Pattern.matchesInt_eq (p : Pattern) (i : Int) :
    p.matchesInt i = p.matches (Word.ofInt i) := by
  rw [matchesInt, «matches», Word.land_natCast i p.mask.toNat_lt, Bool.eq_iff_iff, beq_iff_eq,
    beq_iff_eq, Int.natCast_inj, ← UInt16.toNat_and, UInt16.toNat_inj]

namespace Opcode

/-- The kind of an integer of any size and sign: the first entry of the table that it matches. -/
def ofInt (i : Int) : Opcode :=
  match patterns.find? (·.matchesInt i) with
  | some p => p.opcode
  | none => unimplemented

theorem ofInt_eq (i : Int) : ofInt i = ofWord (Word.ofInt i) := by
  simp only [ofInt, Pattern.matchesInt_eq]
  rfl

/-- An integer is of no kind exactly if it matches no entry. -/
theorem ofInt_eq_unimplemented_iff (i : Int) :
    ofInt i = unimplemented ↔ ∀ p ∈ patterns, p.matchesInt i = false := by
  simp only [ofInt_eq, Pattern.matchesInt_eq]
  exact ofWord_eq_unimplemented_iff _

section Disjoint

variable {p : Pattern} {entries : List Pattern} {w : Word}

/-- The entries behind a match are excluded by it. -/
theorem not_matches_of_matches (h : (p :: entries).Pairwise fun p q => p.disjoint q = true)
    (hm : p.matches w = true) : ∀ q ∈ entries, ¬q.matches w = true := by
  intro q hq
  rw [Pattern.matches_eq_false_of_disjoint ((List.pairwise_cons.mp h).1 q hq) hm]
  exact Bool.false_ne_true

/-- Of entries that exclude one another at most one matches. -/
theorem length_filter_matches (h : entries.Pairwise fun p q => p.disjoint q = true) (w : Word) :
    (entries.filter fun p => p.matches w).length ≤ 1 := by
  induction entries with
  | nil => exact Nat.zero_le 1
  | cons p rest ih =>
    rw [List.filter_cons]
    split
    case isTrue hm =>
      rw [List.filter_eq_nil_iff.mpr (not_matches_of_matches h hm)]
      exact Nat.le_refl 1
    case isFalse => exact ih (List.pairwise_cons.mp h).2

/-- The last match among entries that exclude one another is the first one. -/
theorem foldl_matches (h : entries.Pairwise fun p q => p.disjoint q = true) (w : Word)
    (found : Opcode) :
    entries.foldl (fun found p => if p.matches w then p.opcode else found) found =
      match entries.find? fun p => p.matches w with
      | some p => p.opcode
      | none => found := by
  induction entries generalizing found with
  | nil => rfl
  | cons p rest ih =>
    rw [List.foldl_cons, ih (List.pairwise_cons.mp h).2, List.find?_cons]
    -- nothing behind a match can replace it
    by_cases hm : p.matches w = true
    · rw [List.find?_eq_none.mpr (not_matches_of_matches h hm), hm]
      rfl
    · rw [Bool.eq_false_iff.mpr hm]
      rfl

end Disjoint

theorem length_filter_matchesInt (i : Int) :
    (patterns.filter fun p => p.matchesInt i).length ≤ 1 := by
  simp only [Pattern.matchesInt_eq]
  exact length_filter_matches patterns_disjoint _

/-- The two ways to read the table agree. -/
theorem lastMatch_eq (w : Word) : lastMatch w = ofWord w :=
  foldl_matches patterns_disjoint w unimplemented

end Opcode

end Chip8
