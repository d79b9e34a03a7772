import Chip8.Memory

/-!
Words and blocks in memory.  A word is its two bytes (`joinBytes_inj`), so what a block store does
to the bytes it does to the words: one that lies in the block is spelled by the block
(`readWord_writeAll`), and a byte stays as it was exactly if the block stores nothing else there
(`read_writeAll_eq_iff`).

Stores that do not meet commute (`write_writeAll_comm`), and a block that has been stored can be
read back (`block_writeAll`).
-/

namespace Chip8

/-- A byte read as an integer and back. -/
theorem ofInt_toNat_byte (b : UInt8) : UInt8.ofInt (b.toNat : Int) = b := by
  have hb := b.toNat_lt
  have hm : ((b.toNat : Int) % 2 ^ 8).toNat = b.toNat := by omega
  rw [UInt8.ofInt, hm, UInt8.ofNat_toNat]

namespace Memory

/-! ### Words and their two bytes -/

theorem toNat_joinBytes (high low : UInt8) :
    (joinBytes high low).toNat = 256 * high.toNat + low.toNat := by
  have hh : high.toNat < 256 := high.toNat_lt
  have hl : low.toNat < 256 := low.toNat_lt
  have hs : (high.toUInt16 <<< 8).toNat = high.toNat <<< 8 := by
    rw [UInt16.toNat_shiftLeft, UInt8.toNat_toUInt16, show (8 : UInt16).toNat % 16 = 8 from rfl,
      Nat.shiftLeft_eq, Nat.mod_eq_of_lt (by omega)]
  rw [joinBytes, UInt16.toNat_or, hs, UInt8.toNat_toUInt16, ← Nat.shiftLeft_add_eq_or_of_lt hl,
    Nat.shiftLeft_eq]
  omega

theorem joinBytes_inj {a b c d : UInt8} :
    joinBytes a b = joinBytes c d ↔ a = c ∧ b = d := by
  constructor
  · intro h
    have hn := congrArg UInt16.toNat h
    rw [toNat_joinBytes, toNat_joinBytes] at hn
    have hb : b.toNat < 256 := b.toNat_lt
    have hd : d.toNat < 256 := d.toNat_lt
    exact ⟨UInt8.toNat_inj.mp (by omega), UInt8.toNat_inj.mp (by omega)⟩
  · rintro ⟨rfl, rfl⟩
    rfl

/-! ### Block stores -/

/-- A block store leaves a byte alone exactly when it stores nothing there or the same byte. -/
theorem read_writeAll_eq_iff (m : Memory) (a : Nat) (bs : List UInt8) {k : Nat}
    (hk : k < 4096) :
    (m.writeAll a bs).read k = m.read k ↔
      ∀ i b, bs[i]? = some b → a + i = k → b = m.read k := by
  rw [read_writeAll _ _ _ _ hk]
  by_cases ha : a ≤ k
  · rw [if_pos ha]
    constructor
    · rintro h i b hb rfl
      rw [Nat.add_sub_cancel_left, hb] at h
      exact h
    · intro h
      rcases hb : bs[k - a]? with - | b
      · rfl
      · exact h (k - a) b hb (by omega)
  · rw [if_neg ha]
    constructor
    · rintro - i b - rfl
      omega
    · intro
      rfl

/-- Stores at two places can be made in either order. -/
theorem write_write_comm (m : Memory) {a b : Nat} (v c : UInt8) (h : a ≠ b) :
    (m.write b c).write a v = (m.write a v).write b c := by
  apply ext_read
  intro k hk
  rw [read_write _ _ _ _ hk, read_write _ _ _ _ hk, read_write _ _ _ _ hk, read_write _ _ _ _ hk]
  by_cases ha : a = k
  · rw [if_pos ha, if_neg (by omega), if_pos ha]
  · rw [if_neg ha, if_neg ha]

/-- A store outside the range of a block store can be made before or after it. -/
theorem write_writeAll_comm (m : Memory) {a b : Nat} (v : UInt8) (bs : List UInt8)
    (h : a < b ∨ b + bs.length ≤ a) :
    (m.writeAll b bs).write a v = (m.write a v).writeAll b bs := by
  induction bs generalizing m b with
  | nil => rfl
  | cons c rest ih =>
    rw [List.length_cons] at h
    rw [writeAll, writeAll, ih _ (by omega), write_write_comm _ _ _ (by omega)]

/-- A word that lies in a stored block is spelled by the block. -/
theorem readWord_writeAll (m : Memory) (a : Nat) (bs : List UInt8) (i : Nat)
    (hi : i + 1 < bs.length) (ha : a + i + 1 < 4096) :
    (m.writeAll a bs).readWord (a + i) = joinBytes bs[i] bs[i + 1] := by
  have hsub : a + i + 1 - a = i + 1 := by omega
  rw [readWord, read_writeAll _ _ _ _ (by omega), read_writeAll _ _ _ _ ha, if_pos (by omega),
    if_pos (by omega), hsub, Nat.add_sub_cancel_left, List.getElem?_eq_getElem hi,
    List.getElem?_eq_getElem (by omega), Option.getD_some, Option.getD_some]

/-! ### Blocks of bytes -/

/-- The bytes of a range. -/
def block (m : Memory) (a length : Nat) : List UInt8 :=
  (List.range length).map fun k => m.read (a + k)

/-- A block is its first byte and the block behind it. -/
theorem block_succ (m : Memory) (a length : Nat) :
    m.block a (length + 1) = m.read a :: m.block (a + 1) length := by
  simp only [block, List.range_succ_eq_map, List.map_cons, List.map_map, Nat.add_zero,
    List.cons.injEq, true_and]
  exact List.map_congr_left fun k _ => congrArg m.read (by omega)

theorem block_congr {m m' : Memory} {a length : Nat}
    (h : ∀ k, a ≤ k → k < a + length → m.read k = m'.read k) :
    m.block a length = m'.block a length := by
  refine List.map_congr_left fun k hk => h _ (Nat.le_add_right _ _) ?_
  exact Nat.add_lt_add_left (List.mem_range.mp hk) _

/-- What a block store stores is read back as a block. -/
theorem block_writeAll (m : Memory) {a : Nat} {bs : List UInt8} (h : a + bs.length ≤ 4096) :
    (m.writeAll a bs).block a bs.length = bs := by
  apply List.ext_getElem
  · simp [block]
  · intro k _ hk
    simp only [block, List.getElem_map, List.getElem_range]
    rw [read_writeAll _ _ _ _ (by omega), if_pos (Nat.le_add_right _ _), Nat.add_sub_cancel_left,
      List.getElem?_eq_getElem hk, Option.getD_some]

/-- A part of a block is a block. -/
theorem take_drop_block (m : Memory) {a length i j : Nat} (h : i + j ≤ length) :
    ((m.block a length).drop i).take j = m.block (a + i) j := by
  apply List.ext_getElem
  · simp only [block, List.length_take, List.length_drop, List.length_map, List.length_range]
    omega
  · intro k _ _
    simp only [block, List.getElem_take, List.getElem_drop, List.getElem_map, List.getElem_range,
      Nat.add_assoc]

end Memory

end Chip8
