/-!
Instruction words.  A word is sixteen bits, read as four nibbles from the high end.  The operand
fields of an instruction are overlapping slices of it:

* `family`, `x`, `y`, `n` — the four nibbles;
* `nn` — the low byte, `nnn` — the low twelve bits, an address.

`Word.ofInt` takes an integer of any size and sign to the word its low sixteen bits spell in two's
complement.  `join_nibbles` says that the four nibbles are the whole word.
-/

namespace Chip8

/-- Sixteen bits of program text. -/
abbrev Word := UInt16

/-- A twelve bit memory address. -/
abbrev Address := Fin 4096

/-- The number of one of the sixteen registers, keys or nibble values. -/
abbrev Nibble := Fin 16

namespace Nibble

/-- The number in the low four bits of a byte. -/
def ofByte (b : UInt8) : Nibble :=
  ⟨b.toNat % 16, Nat.mod_lt _ (by decide)⟩

theorem toNat_emod_lt (i : Int) : (i % 16).toNat < 16 := by
  omega

theorem toNat_lt {i : Int} (h : 0 ≤ i ∧ i < 16) : i.toNat < 16 := by
  omega

/-- The number in the low four bits of an integer. -/
def ofInt (i : Int) : Nibble :=
  ⟨(i % 16).toNat, toNat_emod_lt i⟩

/-- The number an integer is, if it is between zero and fifteen. -/
def ofInt? (i : Int) : Option Nibble :=
  if h : 0 ≤ i ∧ i < 16 then some ⟨i.toNat, toNat_lt h⟩ else none

end Nibble

namespace Word

/-- The word spelled by the low sixteen bits of an integer. -/
def ofInt (i : Int) : Word :=
  UInt16.ofInt i

/-- The highest nibble, which selects the family of instructions. -/
def family (w : Word) : Nibble :=
  ⟨w.toNat / 4096 % 16, Nat.mod_lt _ (by decide)⟩

/-- The second nibble, usually the number of register `VX`. -/
def x (w : Word) : Nibble :=
  ⟨w.toNat / 256 % 16, Nat.mod_lt _ (by decide)⟩

/-- The third nibble, usually the number of register `VY`. -/
def y (w : Word) : Nibble :=
  ⟨w.toNat / 16 % 16, Nat.mod_lt _ (by decide)⟩

/-- The lowest nibble. -/
def n (w : Word) : Nibble :=
  ⟨w.toNat % 16, Nat.mod_lt _ (by decide)⟩

/-- The low byte. -/
def nn (w : Word) : UInt8 :=
  UInt8.ofNat w.toNat

/-- The low twelve bits. -/
def nnn (w : Word) : Address :=
  ⟨w.toNat % 4096, Nat.mod_lt _ (by decide)⟩

/-! ### The fields recombine -/

/-- The four nibbles spell the word. -/
theorem join_nibbles (w : Word) :
    4096 * w.family.val + 256 * w.x.val + 16 * w.y.val + w.n.val = w.toNat := by
  have h : w.toNat < 65536 := w.toNat_lt
  simp only [family, x, y, n]
  omega

/-- The low byte is the last two nibbles. -/
theorem toNat_nn (w : Word) : w.nn.toNat = 16 * w.y.val + w.n.val := by
  have h : w.nn.toNat = w.toNat % 256 := UInt8.toNat_ofNat'
  rw [h]
  simp only [y, n]
  omega

/-- The address field is the last three nibbles. -/
theorem val_nnn (w : Word) : w.nnn.val = 256 * w.x.val + 16 * w.y.val + w.n.val := by
  simp only [nnn, x, y, n]
  omega

end Word

end Chip8
