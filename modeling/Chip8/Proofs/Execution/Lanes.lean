import Chip8.Proofs.CallStack
import Chip8.Proofs.Execution.Effect
import Chip8.Proofs.Execution.Fault
import Chip8.Proofs.Memory

/-!
Instructions on whole arrays.  A machine that works on all elements of an array at once asks for
more than an instruction needs: a draw asks for a byte of memory for every pixel of the grid, a
block store or a block load for one byte for each of the sixteen registers.  A mask then throws away
the lanes that do not count, and a block store puts back what it has read where the mask is off.
Some of these lanes lie past the end of memory.  Registers and keys are named by four bits, so no
access to them can miss.

* `Strays` — what reads outside their array answer, chosen read by read;
* `State.performLanes` — the effect of an instruction lane by lane, with stray reads and with stores
  outside memory dropped;
* `State.perform?` — the effect of an instruction by reads and stores that fail outside their array,
  made for the lanes that count and for no others.

For an instruction that passes the test for faults, with a stack pointer between 0 and 16, all three
are one (`performLanes_eq`, `perform?_eq`): the test keeps every lane that counts inside its array.
-/

namespace Chip8

/-! ### Accesses that can fail -/

namespace Memory

/-- The byte at an address, if it lies in memory. -/
def read? (m : Memory) (a : Nat) : Option UInt8 :=
  m.bytes[a]?

/-- Memory with the byte at an address replaced, if it lies in memory. -/
def write? (m : Memory) (a : Nat) (b : UInt8) : Option Memory :=
  if a < 4096 then some (m.write a b) else none

/-- The bytes of a range, if all of them lie in memory. -/
def block? (m : Memory) (a : Nat) : Nat → Option (List UInt8)
  | 0 => some []
  | length + 1 => (m.read? a).bind fun b => (m.block? (a + 1) length).map (b :: ·)

/-- Memory with a block of bytes stored, if all of them lie in memory. -/
def writeAll? (m : Memory) (a : Nat) : List UInt8 → Option Memory
  | [] => some m
  | b :: rest => (m.write? a b).bind (·.writeAll? (a + 1) rest)

theorem read?_of_lt (m : Memory) {a : Nat} (h : a < 4096) : m.read? a = some (m.read a) := by
  have hmin : min a 4095 = a := by omega
  simp only [read?, read, hmin, Vector.getElem?_eq_getElem h]

theorem block?_of_le (m : Memory) {a length : Nat} (h : 0 < length → a + length ≤ 4096) :
    m.block? a length = some (m.block a length) := by
  induction length generalizing a with
  | zero => rfl
  | succ length ih =>
    have hfits := h (Nat.succ_pos length)
    rw [block?, m.read?_of_lt (by omega), Option.bind_some, ih (by omega), Option.map_some,
      block_succ]

theorem writeAll?_of_le (m : Memory) {a : Nat} {bs : List UInt8} (h : a + bs.length ≤ 4096) :
    m.writeAll? a bs = some (m.writeAll a bs) := by
  induction bs generalizing m a with
  | nil => rfl
  | cons b rest ih =>
    rw [List.length_cons] at h
    rw [writeAll?, write?, if_pos (by omega), Option.bind_some, ih _ (by omega), writeAll]

end Memory

namespace CallStack

/-- The slot at a signed index, if there is one. -/
def slot? (s : CallStack) (i : Int) : Option UInt16 :=
  if 0 ≤ i then s.slots[i.toNat]? else none

/-- The stack with the slot at a signed index replaced, if there is one. -/
def setSlot? (s : CallStack) (i : Int) (a : UInt16) : Option CallStack :=
  if 0 ≤ i ∧ i < 16 then some { s with slots := s.slots.setIfInBounds i.toNat a } else none

/-- Store an address as `push` does, if its slot exists. -/
def push? (s : CallStack) (a : UInt16) : Option CallStack :=
  (s.setSlot? s.pointer.toInt (a &&& 0xFFF)).map fun t => { t with pointer := s.pointer + 1 }

/-- Take an address off as `pop` does, if its slot exists. -/
def pop? (s : CallStack) : Option (UInt16 × CallStack) :=
  let top := s.pointer - 1
  (s.slot? top.toInt).bind fun a =>
    (s.setSlot? top.toInt 0).map fun t => (a, { t with pointer := top })

variable {s : CallStack} {i : Int} {a : UInt16}

theorem slot?_of_mem (h : 0 ≤ i ∧ i < 16) : s.slot? i = some (s.slotAt i) := by
  obtain ⟨k, rfl⟩ := Int.eq_ofNat_of_zero_le h.1
  have hk : k < 16 := by omega
  simp only [slot?, slotAt, h.1, if_true, Int.toNat_natCast, Cell.nearest_of_lt hk,
    Vector.getElem?_eq_getElem hk]

theorem setSlot?_of_mem (h : 0 ≤ i ∧ i < 16) : s.setSlot? i a = some (s.setSlot i a) := by
  obtain ⟨k, rfl⟩ := Int.eq_ofNat_of_zero_le h.1
  rw [setSlot?, if_pos h, setSlot_of_lt rfl (by omega), Int.toNat_natCast]

theorem push?_of_mem (h : 0 ≤ s.pointer.toInt ∧ s.pointer.toInt < 16) :
    s.push? a = some (s.push a) := by
  rw [push?, setSlot?_of_mem h]
  rfl

theorem pop?_of_mem (h : 0 ≤ (s.pointer - 1).toInt ∧ (s.pointer - 1).toInt < 16) :
    s.pop? = some s.pop := by
  rw [pop?, slot?_of_mem h, Option.bind_some, setSlot?_of_mem h]
  rfl

end CallStack

/-! ### Lanes -/

/-- What reads outside their array answer, chosen read by read. -/
structure Strays where
  /-- The reads of the two bytes of a word. -/
  fetch : Fin 2 → UInt8
  /-- The read of a return address. -/
  slot : UInt16
  /-- The read of a draw for each pixel of the grid. -/
  pixel : Column → Line → UInt8
  /-- The read of a block store or a block load for each register. -/
  register : Nibble → UInt8

/-- A lane of a store: which entry of the array it carries, and the byte that is to go to an
address. -/
structure StoreLane where
  entry : Nat
  address : Nat
  byte : UInt8

/-- Memory with the bytes of lanes stored.  A lane past the end of memory is dropped. -/
def Memory.scatter (m : Memory) (lanes : List StoreLane) : Memory :=
  lanes.foldl (fun m lane => m.write lane.address lane.byte) m

/-- Lanes that carry the bytes of `t`, to all places where `m` differs from it, make `t` of `m`. -/
theorem Memory.scatter_eq {m t : Memory} {lanes : List StoreLane}
    (hlanes : ∀ lane ∈ lanes, lane.address < 4096 → lane.byte = t.read lane.address)
    (hrest : ∀ a < 4096, (∀ lane ∈ lanes, lane.address ≠ a) → m.read a = t.read a) :
    m.scatter lanes = t := by
  induction lanes generalizing m with
  | nil => exact ext_read fun a ha => hrest a ha fun lane h => absurd h List.not_mem_nil
  | cons lane rest ih =>
    refine ih (fun l hl => hlanes l (List.mem_cons_of_mem lane hl)) fun a ha hne => ?_
    rw [read_write _ _ _ _ ha]
    by_cases hl : lane.address = a
    · rw [if_pos hl, hlanes lane List.mem_cons_self (by omega), hl]
    · rw [if_neg hl]
      refine hrest a ha fun l hmem => ?_
      rcases List.mem_cons.mp hmem with rfl | hmem
      · exact hl
      · exact hne l hmem

namespace State

/-- An index held between zero and a limit. -/
def clip (i : Int) (limit : Nat) : Nat :=
  min i.toNat limit

/-- Whether the sprite of a draw covers a pixel.  Every pixel of the grid asks for its byte and takes
a bit of it, and the mask decides whether the bit counts. -/
def drawLane (s : State) (strays : Strays) (x y height : Nibble) (i : Column) (j : Line) : Bool :=
  let column : Int := i.val - ((s.register x).toNat % 64 : Nat)
  let row : Int := j.val - ((s.register y).toNat % 32 : Nat)
  let byte := (s.memory.read? (s.index.toNat + clip row 15)).getD (strays.pixel i j)
  decide (0 ≤ column ∧ column < 8 ∧ 0 ≤ row ∧ row < height.val) && Sprite.bit byte (clip column 7)

/-- The lanes of the store an instruction makes.  A block store has a lane for each register, also
for those past `VX`, which put back the byte they have read. -/
def storeLanes (s : State) (strays : Strays) : Instruction → List StoreLane
  | .bcdConversion x =>
    (decimalDigits (s.register x)).mapIdx fun k b => ⟨k, s.index.toNat + k, b⟩
  | .storeRegisters x =>
    (List.finRange 16).map fun k : Nibble =>
      let before := (s.memory.read? (s.index.toNat + k.val)).getD (strays.register k)
      ⟨k.val, s.index.toNat + k.val, if k.val ≤ x.val then s.register k else before⟩
  | _ => []

/-- The effect of an instruction lane by lane. -/
def performLanes (s : State) (strays : Strays) (i : Instruction) : State :=
  match i with
  | .ret =>
    let top := s.stack.pointer - 1
    { s with
      pc := (s.stack.slot? top.toInt).getD strays.slot
      stack := { (s.stack.setSlot? top.toInt 0).getD s.stack with pointer := top } }
  | .call target =>
    { s with
      stack :=
        { (s.stack.setSlot? s.stack.pointer.toInt (s.pc &&& 0xFFF)).getD s.stack with
          pointer := s.stack.pointer + 1 }
      pc := UInt16.ofNat target.val }
  | .draw x y height =>
    let covered := s.drawLane strays x y height
    let hit := (List.finRange 32).any fun j => (List.finRange 64).any fun i =>
      covered i j && s.display.pixel i j
    { s.setRegister flagRegister (Alu.flagByte hit) with
      display := Display.ofFn fun i j => s.display.pixel i j ^^ covered i j }
  | .bcdConversion _ | .storeRegisters _ =>
    { s with memory := s.memory.scatter (s.storeLanes strays i) }
  | .loadRegisters x =>
    { s with
      registers := Vector.ofFn fun k =>
        let byte := (s.memory.read? (s.index.toNat + k)).getD (strays.register k)
        if k.val ≤ x.val then byte else s.register k }
  | i => s.perform i

/-- The effect of an instruction by accesses that can fail, made where they count. -/
def perform? (s : State) (i : Instruction) : Option State :=
  match i with
  | .ret => s.stack.pop?.map fun top => { s with pc := top.1, stack := top.2 }
  | .call target =>
    (s.stack.push? s.pc).map fun stack => { s with stack, pc := UInt16.ofNat target.val }
  | .draw x y height =>
    (s.memory.block? s.index.toNat height.val).map fun rows =>
      let shown := { s.sprite x y height with rows }
      { s.setRegister flagRegister (Alu.flagByte (s.display.overlaps shown)) with
        display := s.display.toggle shown }
  | .bcdConversion _ | .storeRegisters _ =>
    (s.memory.writeAll? s.index.toNat (s.stores i)).map fun memory => { s with memory }
  | .loadRegisters x =>
    (s.memory.block? s.index.toNat (x.val + 1)).map fun bytes =>
      { s with registers := Vector.ofFn fun k => (bytes[k.val]?).getD (s.register k) }
  | i => some (s.perform i)

/-! ### The slots of calls and returns -/

/-- The slot of the call stack that an instruction reads or replaces. -/
def slotIndex? (s : State) : Instruction → Option Int
  | .ret => some (s.stack.pointer - 1).toInt
  | .call _ => some s.stack.pointer.toInt
  | _ => none

variable {s : State} {i : Instruction} {x y height : Nibble}

/-- A call or return that passes the test uses one of the sixteen slots. -/
theorem slotIndex?_mem (hlow : 0 ≤ s.stack.pointer) (hhigh : s.stack.pointer ≤ 16)
    (hf : s.fault? i = none) {k : Int} (hk : s.slotIndex? i = some k) : 0 ≤ k ∧ k < 16 := by
  have h0 : (0 : Int32).toInt = 0 := rfl
  have h1 : (1 : Int32).toInt = 1 := rfl
  have h16 : (16 : Int32).toInt = 16 := rfl
  rw [Int32.le_iff_toInt_le, h0] at hlow
  rw [Int32.le_iff_toInt_le, h16] at hhigh
  cases i with
  | ret =>
    have hempty : ¬s.stack.pointer ≤ 0 := fun hp => by
      rw [(s.fault?_ret .stackUnderflow).mpr ⟨rfl, hp⟩] at hf
      cases hf
    rw [Int32.le_iff_toInt_le, h0] at hempty
    cases hk
    rw [Int32.toInt_sub, h1, Int.bmod_eq_of_le (by omega) (by omega)]
    omega
  | call target =>
    have hfull : ¬16 ≤ s.stack.pointer := fun hp => by
      rw [(s.fault?_call target .stackOverflow).mpr ⟨rfl, hp⟩] at hf
      cases hf
    rw [Int32.le_iff_toInt_le, h16] at hfull
    cases hk
    omega
  | _ => cases hk

/-! ### The lanes of each instruction -/

/-- A pixel counts if it lies over a row of the sprite, and these rows lie in memory. -/
theorem drawLane_eq (hf : s.fault? (.draw x y height) = none) (strays : Strays) :
    s.drawLane strays x y height = (s.sprite x y height).lit := by
  funext i j
  have hfits : 0 < height.val → s.index.toNat + height.val ≤ 4096 := fits_of_fault?_eq_none hf
  have hheight := height.isLt
  -- the position of the pixel seen from the corner of the sprite
  generalize hleft : (s.register x).toNat % 64 = left
  generalize htop : (s.register y).toNat % 32 = top
  simp only [drawLane, Sprite.lit, sprite, clip, hleft, htop, List.getElem?_map]
  by_cases hin : left ≤ i.val ∧ i.val < left + 8 ∧ top ≤ j.val ∧ j.val - top < height.val
  · obtain ⟨h1, h2, h3, h4⟩ := hin
    have hcolumn : min ((i.val : Int) - (left : Int)).toNat 7 = i.val - left := by omega
    have hrow : min ((j.val : Int) - (top : Int)).toNat 15 = j.val - top := by omega
    rw [hcolumn, hrow, s.memory.read?_of_lt (by omega), if_pos ⟨h1, h2, h3⟩,
      List.getElem?_range h4, decide_eq_true (by omega)]
    rfl
  · rw [decide_eq_false (by omega), Bool.false_and]
    split
    · rw [List.getElem?_eq_none (by simp only [List.length_range]; omega)]
      rfl
    · rfl

theorem getElem?_registersUpTo (s : State) (x k : Nibble) :
    (s.registersUpTo x)[k.val]? =
      if k.val ≤ x.val then some (s.register k) else none := by
  have hk : k.val < s.registers.toList.length := by
    rw [Vector.length_toList]
    exact k.isLt
  rw [registersUpTo, List.getElem?_take, List.getElem?_eq_getElem hk, Vector.getElem_toList]
  simp only [Nat.lt_succ_iff]
  rfl

/-- A lane inside memory carries the byte that is there after the store: what the instruction
stores, or for a register past `VX` what was there before. -/
theorem byte_of_mem_storeLanes {strays : Strays} {lane : StoreLane}
    (hl : lane ∈ s.storeLanes strays i) (ha : lane.address < 4096) :
    lane.byte = (s.memory.writeAll s.index.toNat (s.stores i)).read lane.address := by
  rw [Memory.read_writeAll _ _ _ _ ha]
  cases i with
  | bcdConversion x =>
    obtain ⟨k, hk, rfl⟩ := List.mem_mapIdx.mp hl
    rw [if_pos (Nat.le_add_right _ _), Nat.add_sub_cancel_left, stores,
      List.getElem?_eq_getElem hk]
    rfl
  | storeRegisters x =>
    obtain ⟨k, -, rfl⟩ := List.mem_map.mp hl
    simp only at ha ⊢
    rw [if_pos (Nat.le_add_right _ _), Nat.add_sub_cancel_left, stores, getElem?_registersUpTo,
      s.memory.read?_of_lt ha]
    split <;> rfl
  | _ => cases hl

/-- Every byte an instruction stores has its lane. -/
theorem exists_mem_storeLanes {k : Nat} {b : UInt8} (hb : (s.stores i)[k]? = some b)
    (strays : Strays) :
    ∃ lane ∈ s.storeLanes strays i, lane.entry = k ∧ lane.address = s.index.toNat + k := by
  obtain ⟨hk, -⟩ := List.getElem?_eq_some_iff.mp hb
  cases i with
  | bcdConversion x => exact ⟨_, List.mem_mapIdx.mpr ⟨k, hk, rfl⟩, rfl, rfl⟩
  | storeRegisters x =>
    have hlt : k < 16 := by
      have hle := length_stores_le s (.storeRegisters x)
      have hmax := Instruction.access_length_le (.storeRegisters x)
      omega
    exact ⟨_, List.mem_map.mpr ⟨⟨k, hlt⟩, List.mem_finRange _, rfl⟩, rfl, rfl⟩
  | _ => cases hb

/-- Without a fault, only a lane of a register past `VX` lies past the end of memory. -/
theorem register_of_mem_storeLanes (hf : s.fault? i = none) {strays : Strays} {lane : StoreLane}
    (hl : lane ∈ s.storeLanes strays i) (ha : 4096 ≤ lane.address) :
    ∃ x, i = .storeRegisters x ∧ x.val < lane.entry ∧ lane.entry < 16 := by
  cases i with
  | bcdConversion x =>
    have hfits : s.index.toNat + 3 ≤ 4096 := fits_of_fault?_eq_none hf (Nat.succ_pos 2)
    obtain ⟨k, hk, rfl⟩ := List.mem_mapIdx.mp hl
    have hk3 : k < 3 := hk
    simp only at ha
    omega
  | storeRegisters x =>
    have hfits : s.index.toNat + (x.val + 1) ≤ 4096 := fits_of_fault?_eq_none hf (Nat.succ_pos _)
    obtain ⟨k, -, rfl⟩ := List.mem_map.mp hl
    simp only at ha
    exact ⟨x, rfl, by simp only; omega, k.isLt⟩
  | _ => cases hl

/-- The lanes of a store make the memory that the store makes. -/
theorem scatter_storeLanes (s : State) (strays : Strays) (i : Instruction) :
    s.memory.scatter (s.storeLanes strays i) =
      s.memory.writeAll s.index.toNat (s.stores i) := by
  refine Memory.scatter_eq (fun lane hl ha => byte_of_mem_storeLanes hl ha) fun a ha hne => ?_
  -- no lane goes to `a`, so neither does a byte of the store
  refine ((Memory.read_writeAll_eq_iff _ _ _ ha).mpr fun k b hb hk => ?_).symm
  obtain ⟨lane, hl, -, haddress⟩ := exists_mem_storeLanes hb strays
  exact absurd (haddress.trans hk) (hne lane hl)

/-! ### Instructions by lanes -/

/-- Away from the call stack, what stray reads answer does not show in the effect of an
instruction. -/
theorem performLanes_of_no_slot (hslot : s.slotIndex? i = none) (hf : s.fault? i = none)
    (strays : Strays) : s.performLanes strays i = s.perform i := by
  cases i with
  | ret | call target => cases hslot
  | draw x y height =>
    simp only [performLanes, drawLane_eq hf]
    rfl
  | bcdConversion x | storeRegisters x =>
    rw [performLanes, scatter_storeLanes]
    rfl
  | loadRegisters x =>
    have hfits : s.index.toNat + (x.val + 1) ≤ 4096 := fits_of_fault?_eq_none hf (Nat.succ_pos _)
    have hlane (k : Nibble) :
        (if k.val ≤ x.val then (s.memory.read? (s.index.toNat + k.val)).getD (strays.register k)
          else s.register k) =
        if k.val ≤ x.val then s.memory.read (s.index.toNat + k.val) else s.register k := by
      split
      · rw [s.memory.read?_of_lt (by omega)]
        rfl
      · rfl
    simp only [performLanes, perform, hlane]
  | _ => rfl

/-- Nor does it with a stack pointer that leaves every call and return its slot. -/
theorem performLanes_eq (hlow : 0 ≤ s.stack.pointer) (hhigh : s.stack.pointer ≤ 16)
    (hf : s.fault? i = none) (strays : Strays) : s.performLanes strays i = s.perform i := by
  cases i with
  | ret =>
    have hslot := slotIndex?_mem hlow hhigh hf rfl
    simp only [performLanes, CallStack.slot?_of_mem hslot, CallStack.setSlot?_of_mem hslot]
    rfl
  | call target =>
    have hslot := slotIndex?_mem hlow hhigh hf rfl
    simp only [performLanes, CallStack.setSlot?_of_mem hslot]
    rfl
  | _ => exact performLanes_of_no_slot rfl hf strays

/-- No access that an instruction makes fails. -/
theorem perform?_eq (hlow : 0 ≤ s.stack.pointer) (hhigh : s.stack.pointer ≤ 16)
    (hf : s.fault? i = none) : s.perform? i = some (s.perform i) := by
  cases i with
  | ret =>
    rw [perform?, CallStack.pop?_of_mem (slotIndex?_mem hlow hhigh hf rfl)]
    rfl
  | call target =>
    rw [perform?, CallStack.push?_of_mem (slotIndex?_mem hlow hhigh hf rfl)]
    rfl
  | draw x y height =>
    have hfits : 0 < height.val → s.index.toNat + height.val ≤ 4096 := fits_of_fault?_eq_none hf
    rw [perform?, s.memory.block?_of_le hfits]
    rfl
  | bcdConversion x | storeRegisters x =>
    have hfits := fits_of_fault?_eq_none hf (Nat.succ_pos _)
    rw [perform?, s.memory.writeAll?_of_le
      (Nat.le_trans (Nat.add_le_add_left (length_stores_le s _) _) hfits)]
    rfl
  | loadRegisters x =>
    have hfits : s.index.toNat + (x.val + 1) ≤ 4096 := fits_of_fault?_eq_none hf (Nat.succ_pos _)
    have hbyte (k : Nibble) :
        ((s.memory.block s.index.toNat (x.val + 1))[k.val]?).getD (s.register k) =
          if k.val ≤ x.val then s.memory.read (s.index.toNat + k.val) else s.register k := by
      rw [Memory.block, List.getElem?_map]
      split
      · rw [List.getElem?_range (by omega)]
        rfl
      · rw [List.getElem?_eq_none (by rw [List.length_range]; omega)]
        rfl
    rw [perform?, s.memory.block?_of_le fun _ => hfits, Option.map_some]
    simp only [perform, hbyte]
  | _ => rfl

end State

end Chip8
