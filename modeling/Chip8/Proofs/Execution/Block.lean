import Chip8.Proofs.Execution.Lanes
import Mathlib.Data.List.Induction

/-!
Block stores and block loads, register by register.  `State.storeEach` stores registers one at a
time and `State.loadEach` loads them, each at its own distance from `I`; `Nibble.upTo` lists the
registers that `FX55` and `FX65` transfer.

* `storeEach_upTo`, `loadEach_upTo` — the two instructions are these loops.
* `load_after_store` — a load gives back what a store has put away.
* `store_after_load` — a store puts back what a load has taken.
* `spellsDecimal_of_digits` — the three bytes of `FX33` spell `VX` in decimal.

Main result: `transfers_exact`.  A machine that works on sixteen lanes at once, some of them past
the end of memory, comes to the same states.
-/

namespace Chip8

/-- The numbers from zero to `x`. -/
def Nibble.upTo (x : Nibble) : List Nibble :=
  (List.finRange 16).filter (· ≤ x)

theorem Nibble.mem_upTo {x k : Nibble} : k ∈ x.upTo ↔ k ≤ x := by
  simp [upTo]

/-- The three bytes from `a` on are the decimal digits of a number. -/
structure Memory.SpellsDecimal (m : Memory) (a n : Nat) : Prop where
  hundreds : (m.read a).toNat ≤ 9
  tens : (m.read (a + 1)).toNat ≤ 9
  units : (m.read (a + 2)).toNat ≤ 9
  value : 100 * (m.read a).toNat + 10 * (m.read (a + 1)).toNat + (m.read (a + 2)).toNat = n

namespace State

/-! ### One register at a time -/

/-- Memory after registers have been stored, one at a time. -/
def storeEach (s : State) (ks : List Nibble) : Memory :=
  ks.foldl (fun m k => m.write (s.index.toNat + k.val) (s.register k)) s.memory

/-- The state after registers have been loaded, one at a time. -/
def loadEach (s : State) (ks : List Nibble) : State :=
  ks.foldl (fun t k => t.setRegister k (s.memory.read (s.index.toNat + k.val))) s

variable {s t : State} {x k : Nibble}

/-- The bytes of a block store are the values of the registers, in order. -/
theorem exists_register_of_getElem? {i : Nat} {b : UInt8} (hb : (s.registersUpTo x)[i]? = some b) :
    ∃ k : Nibble, k.val = i ∧ k ≤ x ∧ s.register k = b := by
  have hlt : i < 16 := by
    have hle := length_stores_le s (.storeRegisters x)
    have hmax := Instruction.access_length_le (.storeRegisters x)
    have hlen := (List.getElem?_eq_some_iff.mp hb).1
    exact Nat.lt_of_lt_of_le hlen (Nat.le_trans hle hmax)
  rw [getElem?_registersUpTo s x ⟨i, hlt⟩] at hb
  split at hb
  · rename_i hle
    exact ⟨⟨i, hlt⟩, rfl, hle, Option.some.inj hb⟩
  · cases hb

/-- A block store leaves the value of a register at its distance from `I`. -/
theorem read_writeAll_registersUpTo (hk : k ≤ x) (hfits : s.index.toNat + k.val < 4096) :
    (s.memory.writeAll s.index.toNat (s.registersUpTo x)).read (s.index.toNat + k.val) =
      s.register k := by
  have hle : k.val ≤ x.val := hk
  rw [Memory.read_writeAll _ _ _ _ hfits, if_pos (Nat.le_add_right _ _), Nat.add_sub_cancel_left,
    getElem?_registersUpTo, if_pos hle, Option.getD_some]

/-- A block store stores the registers one at a time. -/
theorem storeEach_upTo (s : State) (x : Nibble) :
    s.storeEach x.upTo = s.memory.writeAll s.index.toNat (s.registersUpTo x) := by
  have hscatter : s.storeEach x.upTo = s.memory.scatter
      (x.upTo.map fun k => ⟨k.val, s.index.toNat + k.val, s.register k⟩) := by
    rw [storeEach, Memory.scatter, List.foldl_map]
  rw [hscatter]
  refine Memory.scatter_eq (fun lane hl ha => ?_) fun a ha hne => ?_
  · obtain ⟨k, hk, rfl⟩ := List.mem_map.mp hl
    exact (read_writeAll_registersUpTo (Nibble.mem_upTo.mp hk) ha).symm
  · -- no register goes to `a`, so the block does not reach it
    refine ((Memory.read_writeAll_eq_iff _ _ _ ha).mpr fun i b hb hi => ?_).symm
    obtain ⟨k, rfl, hk, -⟩ := exists_register_of_getElem? hb
    exact absurd hi (hne _ (List.mem_map.mpr ⟨k, Nibble.mem_upTo.mpr hk, rfl⟩))

theorem loadEach_concat (s : State) (ks : List Nibble) (k : Nibble) :
    s.loadEach (ks ++ [k]) =
      (s.loadEach ks).setRegister k (s.memory.read (s.index.toNat + k.val)) := by
  rw [loadEach, List.foldl_append]
  rfl

/-- Loading registers one at a time replaces these and no other. -/
theorem register_loadEach (s : State) (ks : List Nibble) (k : Nibble) :
    (k ∈ ks → (s.loadEach ks).register k = s.memory.read (s.index.toNat + k.val)) ∧
      (k ∉ ks → (s.loadEach ks).register k = s.register k) := by
  induction ks using List.reverseRecOn with
  | nil => exact ⟨fun h => absurd h List.not_mem_nil, fun _ => rfl⟩
  | append_singleton ks last ih =>
    rw [loadEach_concat, register_setRegister, List.mem_append, List.mem_singleton]
    by_cases hk : last = k
    · rw [if_pos hk, hk]
      exact ⟨fun _ => rfl, fun h => absurd (.inr rfl) h⟩
    · rw [if_neg hk, or_iff_left (Ne.symm hk)]
      exact ih

theorem loadEach_frame (s : State) (ks : List Nibble) :
    s.loadEach ks = { s with registers := (s.loadEach ks).registers } := by
  induction ks using List.reverseRecOn with
  | nil => rfl
  | append_singleton ks last ih =>
    rw [loadEach_concat, ih]
    rfl

theorem register_perform_loadRegisters (s : State) (x k : Nibble) :
    (s.perform (.loadRegisters x)).register k =
      if k ≤ x then s.memory.read (s.index.toNat + k.val) else s.register k := by
  simp only [perform, register, Vector.getElem_ofFn]
  rfl

/-- A block load loads the registers one at a time. -/
theorem loadEach_upTo (s : State) (x : Nibble) :
    s.loadEach x.upTo = s.perform (.loadRegisters x) := by
  have hregisters : (s.loadEach x.upTo).registers = (s.perform (.loadRegisters x)).registers := by
    apply Vector.ext
    intro k hk
    show (s.loadEach x.upTo).register ⟨k, hk⟩ = (s.perform (.loadRegisters x)).register ⟨k, hk⟩
    obtain ⟨hloaded, hkept⟩ := s.register_loadEach x.upTo ⟨k, hk⟩
    rw [Nibble.mem_upTo] at hloaded hkept
    rw [register_perform_loadRegisters]
    split
    · rename_i hle
      exact hloaded hle
    · rename_i hlt
      exact hkept hlt
  rw [loadEach_frame, hregisters]
  rfl

/-! ### There and back -/

/-- A load gives back what a store of the same registers has put away, whatever these registers
have become. -/
theorem load_after_store (hfits : s.index.toNat + (x.val + 1) ≤ 4096)
    (hmemory : t.memory = (s.perform (.storeRegisters x)).memory) (hindex : t.index = s.index)
    (hothers : ∀ k, x < k → t.register k = s.register k) :
    t.perform (.loadRegisters x) = { t with registers := s.registers } := by
  have hregisters : (t.perform (.loadRegisters x)).registers = s.registers := by
    apply Vector.ext
    intro k hk
    show (t.perform (.loadRegisters x)).register ⟨k, hk⟩ = s.register ⟨k, hk⟩
    rw [register_perform_loadRegisters, hindex, hmemory]
    split
    · rename_i hle
      have hval : k ≤ x.val := hle
      exact read_writeAll_registersUpTo hle (by simp only; omega)
    · rename_i hlt
      exact hothers _ (Nat.lt_of_not_le hlt)
  rw [← hregisters]
  rfl

/-- A store of what memory holds already changes nothing. -/
theorem store_of_held (h : ∀ k, k ≤ x → s.register k = s.memory.read (s.index.toNat + k.val)) :
    s.perform (.storeRegisters x) = s := by
  have hmemory : s.memory.writeAll s.index.toNat (s.registersUpTo x) = s.memory := by
    apply Memory.ext_read
    intro a ha
    refine (Memory.read_writeAll_eq_iff _ _ _ ha).mpr ?_
    rintro i b hb rfl
    obtain ⟨k, rfl, hk, rfl⟩ := exists_register_of_getElem? hb
    exact h k hk
  rw [perform, hmemory]

/-- So a store puts back what a load of the same registers has taken. -/
theorem store_after_load (s : State) (x : Nibble) :
    (s.perform (.loadRegisters x)).perform (.storeRegisters x) = s.perform (.loadRegisters x) := by
  refine store_of_held fun k hk => ?_
  rw [register_perform_loadRegisters, if_pos hk, perform_memory, perform_index]
  rfl

/-! ### Decimal digits -/

/-- The digits of a byte, stored in memory, spell it. -/
theorem spellsDecimal_of_digits (m : Memory) {a : Nat} (ha : a + 3 ≤ 4096) (b : UInt8) :
    (m.writeAll a (decimalDigits b)).SpellsDecimal a b.toNat := by
  have hb : b.toNat < 256 := b.toNat_lt
  have h10 : (10 : UInt8).toNat = 10 := rfl
  have hread {i : Nat} {d : UInt8} (hi : i < 3) (hd : (decimalDigits b)[i]? = some d) :
      (m.writeAll a (decimalDigits b)).read (a + i) = d := by
    rw [Memory.read_writeAll _ _ _ _ (by omega), if_pos (Nat.le_add_right _ _),
      Nat.add_sub_cancel_left, hd, Option.getD_some]
  have hhundreds : ((m.writeAll a (decimalDigits b)).read a).toNat = b.toNat / 100 :=
    (congrArg UInt8.toNat (hread (i := 0) (by decide) rfl)).trans (UInt8.toNat_div b 100)
  have htens : ((m.writeAll a (decimalDigits b)).read (a + 1)).toNat = b.toNat / 10 % 10 := by
    rw [hread (by decide) rfl, UInt8.toNat_mod, UInt8.toNat_div, h10]
  have hunits : ((m.writeAll a (decimalDigits b)).read (a + 2)).toNat = b.toNat % 10 := by
    rw [hread (by decide) rfl, UInt8.toNat_mod, h10]
  exact ⟨by omega, by omega, by omega, by omega⟩

/-! ### Executing transfers -/

/-- Of the state, the test of a store looks at `I`. -/
theorem fault?_storeRegisters_congr (h : t.index = s.index) (x : Nibble) :
    t.fault? (.storeRegisters x) = s.fault? (.storeRegisters x) := by
  simp only [fault?, h]

/-- A load that stays in memory passes the test. -/
theorem fault?_loadRegisters_of_fits (h : s.index.toNat + (x.val + 1) ≤ 4096) :
    s.fault? (.loadRegisters x) = none := by
  rw [Option.eq_none_iff_forall_ne_some]
  intro f hf
  obtain ⟨-, ⟨-, hover⟩ | ⟨-, hwrites, -⟩⟩ := (s.fault?_access (by simp) (by simp) f).mp hf
  · have hlt : 4096 < s.index.toNat + (x.val + 1) := hover
    omega
  · cases hwrites

/-- **Block transfers are loops over registers and undo each other.**  Where they are not refused,
`FX55` stores `V0` to `VX` one at a time and `FX65` loads them one at a time, and nothing else
changes but the status, also if sixteen lanes are worked on at once and some of them lie past the
end of memory.  A load after a store of as many registers gives all of them back, whatever has
become of them meanwhile, and leaves the stored bytes; a store after a load changes nothing.  `FX33`
stores the decimal digits of `VX` and no other byte. -/
theorem transfers_exact (s : State) {store load : Word} (hstore : store &&& 0xF0FF = 0xF055)
    (hload : load &&& 0xF0FF = 0xF065) (hx : load.x = store.x) :
    ((∀ f, ¬s.Refuses store f) →
        s.execute store = { s with memory := s.storeEach store.x.upTo, status := .ok } ∧
          (∀ strays, (s.withStatus .ok).performLanes strays (.storeRegisters store.x) =
            s.execute store) ∧
          ∀ t : State, t.memory = (s.execute store).memory → t.index = s.index →
            (∀ k, store.x < k → t.register k = s.register k) →
            t.execute load = { t with registers := s.registers, status := .ok }) ∧
      ((∀ f, ¬s.Refuses load f) →
        s.execute load = (s.loadEach load.x.upTo).withStatus .ok ∧
          (∀ strays, (s.withStatus .ok).performLanes strays (.loadRegisters load.x) =
            s.execute load) ∧
          ((∀ f, ¬s.Refuses store f) → (s.execute load).execute store = s.execute load)) ∧
      ∀ bcd : Word, bcd &&& 0xF0FF = 0xF033 → (∀ f, ¬s.Refuses bcd f) →
        s.execute bcd = { s with memory := (s.execute bcd).memory, status := .ok } ∧
          (s.execute bcd).memory.SpellsDecimal s.index.toNat (s.register bcd.x).toNat ∧
          ∀ a < 4096, a < s.index.toNat ∨ s.index.toNat + 2 < a →
            (s.execute bcd).memory.read a = s.memory.read a := by
  have histore := Instruction.ofWord_of_store hstore
  have hiload : Instruction.ofWord load = .loadRegisters store.x :=
    hx ▸ Instruction.ofWord_of_load hload
  refine ⟨fun hfree => ?_, fun hfree => ?_, fun bcd hbcd hfree => ?_⟩
  · have hf := fault?_of_not_refuses histore hfree
    have hok : (s.withStatus .ok).fault? (.storeRegisters store.x) = none := hf
    have he := execute_eq_perform histore hf
    refine ⟨?_, fun strays => ?_, fun t hmemory hindex hothers => ?_⟩
    · rw [he, storeEach_upTo]
      rfl
    · rw [he]
      exact performLanes_of_no_slot rfl hok strays
    · have hfits := fits_of_fault?_eq_none hf (Nat.succ_pos _)
      rw [execute_eq_perform hiload (fault?_loadRegisters_of_fits (hindex ▸ hfits))]
      rw [he] at hmemory
      exact load_after_store (s := s) (t := t.withStatus .ok) hfits hmemory hindex hothers
  · have hf := fault?_of_not_refuses hiload hfree
    have hok : (s.withStatus .ok).fault? (.loadRegisters store.x) = none := hf
    have he := execute_eq_perform hiload hf
    rw [hx]
    refine ⟨?_, fun strays => ?_, fun hwritable => ?_⟩
    · rw [he, loadEach_upTo]
      rfl
    · rw [he]
      exact performLanes_of_no_slot rfl hok strays
    · -- the load has changed neither `I` nor the normal status
      have hfstore : (s.execute load).fault? (.storeRegisters store.x) = none := by
        have hindex : (s.execute load).index = s.index := by
          rw [he]
          exact perform_index _ _
        rw [fault?_storeRegisters_congr hindex]
        exact fault?_of_not_refuses histore hwritable
      have hstatus : (s.execute load).withStatus .ok = s.execute load := by
        rw [he]
        rfl
      rw [execute_eq_perform histore hfstore, hstatus, he]
      exact (s.withStatus .ok).store_after_load store.x
  · have hi := Instruction.ofWord_of_bcd hbcd
    have hf := fault?_of_not_refuses hi hfree
    have hfits : s.index.toNat + 3 ≤ 4096 := fits_of_fault?_eq_none hf (Nat.succ_pos 2)
    rw [execute_eq_perform hi hf]
    refine ⟨rfl, spellsDecimal_of_digits _ hfits _, fun a ha hout => ?_⟩
    refine (Memory.read_writeAll_eq_iff _ _ _ ha).mpr fun i b hb hat => ?_
    have hlen : i < 3 := (List.getElem?_eq_some_iff.mp hb).1
    have hnear : s.index.toNat + i = a := hat
    omega

/-- The last three bytes of memory, and three registers of which the third one holds 254. -/
def lastThree : State :=
  { State.initial ⟨0, 0⟩ with
    registers := #v[7, 9, 254, 0, 0, 0, 0, 0, 0, 0, 0, 0, 0, 0, 0, 0]
    index := 0xFFD }

theorem not_refuses_lastThree {w : Word} (hw : w ∈ [0xF255, 0xF265, 0xF233]) (f : Fault) :
    ¬lastThree.Refuses w f := by
  have hnone : lastThree.fault? (Instruction.ofWord w) = none := by
    simp only [List.mem_cons, List.not_mem_nil, or_false] at hw
    rcases hw with rfl | rfl | rfl <;> rfl
  rw [← fault?_ofWord_iff, hnone]
  nofun

/-- Three registers are stored in the last three bytes and loaded back after all sixteen were
cleared; what is loaded from there and stored again changes nothing; and 254 takes the three bytes
for its digits. -/
theorem transfers_exact_lastThree :
    (lastThree.execute 0xF255).memory =
        ((lastThree.memory.write 0xFFD 7).write 0xFFE 9).write 0xFFF 254 ∧
      ({ lastThree.execute 0xF255 with registers := Vector.replicate 16 0 }.execute 0xF265).registers =
        lastThree.registers ∧
      (lastThree.execute 0xF265).execute 0xF255 = lastThree.execute 0xF265 ∧
      (lastThree.execute 0xF233).memory.SpellsDecimal 0xFFD 254 := by
  have hform : (0xF255 : Word) &&& 0xF0FF = 0xF055 ∧ (0xF265 : Word) &&& 0xF0FF = 0xF065 := by
    decide
  obtain ⟨hstore, hload, hbcd⟩ := transfers_exact lastThree hform.1 hform.2 (by decide)
  obtain ⟨he, -, hback⟩ := hstore (not_refuses_lastThree (by decide))
  obtain ⟨-, -, hagain⟩ := hload (not_refuses_lastThree (by decide))
  obtain ⟨-, hdigits, -⟩ := hbcd 0xF233 (by decide) (not_refuses_lastThree (by decide))
  have hothers (k : Nibble) (hk : Word.x 0xF255 < k) : (0 : UInt8) = lastThree.register k := by
    revert k
    decide
  have hindex : (lastThree.execute 0xF255).index = lastThree.index := by
    rw [he]
  refine ⟨?_, ?_, hagain (not_refuses_lastThree (by decide)), hdigits⟩
  · have hlist : (Word.x 0xF255).upTo = [0, 1, 2] := by decide
    rw [he, hlist]
    rfl
  · rw [hback { lastThree.execute 0xF255 with registers := Vector.replicate 16 0 } rfl hindex
      fun k hk => (Vector.getElem_replicate k.isLt).trans (hothers k hk)]

end State

end Chip8
