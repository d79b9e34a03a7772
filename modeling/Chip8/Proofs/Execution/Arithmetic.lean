import Chip8.Proofs.Execution.Effect
import Chip8.Proofs.Execution.Fault
import Mathlib.Data.Nat.Bitwise

/-!
Register arithmetic over the integers.  `Alu.Operation.Exact` has one equation for each of the nine
operations, between the operands, the result and the flag, and no remainder is taken in any of them:
the flag is the digit that a byte has no room for.  `exact_apply` says that the bytes of an
operation solve its equation, from `toNat_add_carry`, `toNat_sub_borrow`, `toNat_shiftRight_bit` and
`toNat_shiftLeft_bit`.

The flag is stored before the result.  So the result stands in `VX` always, and the flag in `VF`
unless `VX` is `VF` (`register_setOutcome_self`, `register_setOutcome_flag`).

Main result: `execute_exact`.  Both operands are the old values, whichever of `X`, `Y` and `F` are
the same.
-/

namespace Chip8

/-! ### Bytes with the digit they lose -/

namespace Alu

theorem toNat_flagByte (flag : Bool) : (flagByte flag).toNat = flag.toNat := by
  cases flag <;> rfl

/-- A sum, with its carry. -/
theorem toNat_add_carry (a b : UInt8) :
    (a + b).toNat + 256 * (decide (255 < a.toNat + b.toNat)).toNat = a.toNat + b.toNat := by
  have ha : a.toNat < 256 := a.toNat_lt
  have hb : b.toNat < 256 := b.toNat_lt
  rw [UInt8.toNat_add]
  by_cases hcarry : 255 < a.toNat + b.toNat
  · rw [decide_eq_true hcarry, Bool.toNat_true]
    omega
  · rw [decide_eq_false hcarry, Bool.toNat_false]
    omega

/-- A difference, with the borrow that the flag denies. -/
theorem toNat_sub_borrow (a b : UInt8) :
    ((a - b).toNat : Int) = a.toNat - b.toNat + 256 * (1 - (decide (b ≤ a)).toNat) := by
  have ha : a.toNat < 256 := a.toNat_lt
  have hb : b.toNat < 256 := b.toNat_lt
  rw [UInt8.toNat_sub]
  by_cases hle : b ≤ a
  · rw [decide_eq_true hle, Bool.toNat_true]
    rw [UInt8.le_iff_toNat_le] at hle
    omega
  · rw [decide_eq_false hle, Bool.toNat_false]
    rw [UInt8.le_iff_toNat_le] at hle
    omega

/-- A mask of one bit finds out that bit. -/
theorem and_bit_bne_zero {m : UInt8} {i : Nat} (hm : m.toNat = 2 ^ i) (b : UInt8) :
    (b &&& m != 0) = decide (b.toNat / 2 ^ i % 2 = 1) := by
  have hand : (b &&& m).toNat = (b.toNat.testBit i).toNat * 2 ^ i := by
    rw [UInt8.toNat_and, hm, Nat.and_two_pow]
  rw [← Nat.testBit_eq_decide_div_mod_eq, Bool.eq_iff_iff, bne_iff_ne, Ne, ← UInt8.toNat_inj, hand]
  cases b.toNat.testBit i <;> simp

/-- A half, with the bit below it. -/
theorem toNat_shiftRight_bit (b : UInt8) :
    2 * (b >>> 1).toNat + (b &&& 1 != 0).toNat = b.toNat := by
  rw [UInt8.toNat_shiftRight, and_bit_bne_zero (i := 0) rfl]
  show 2 * (b.toNat >>> 1) + _ = _
  rw [Nat.shiftRight_one]
  by_cases hset : b.toNat / 2 ^ 0 % 2 = 1
  · rw [decide_eq_true hset, Bool.toNat_true]
    omega
  · rw [decide_eq_false hset, Bool.toNat_false]
    omega

/-- A double, with the bit above it. -/
theorem toNat_shiftLeft_bit (b : UInt8) :
    (b <<< 1).toNat + 256 * (b &&& 0x80 != 0).toNat = 2 * b.toNat := by
  have hb : b.toNat < 256 := b.toNat_lt
  rw [UInt8.toNat_shiftLeft, and_bit_bne_zero (i := 7) rfl]
  show b.toNat <<< 1 % 2 ^ 8 + _ = _
  rw [Nat.shiftLeft_eq]
  by_cases hset : b.toNat / 2 ^ 7 % 2 = 1
  · rw [decide_eq_true hset, Bool.toNat_true]
    omega
  · rw [decide_eq_false hset, Bool.toNat_false]
    omega

/-! ### The equations -/

namespace Operation

/-- The bits of a word `8XYN` that name the operation. -/
def form : Operation → Word
  | set => 0x8000
  | or => 0x8001
  | and => 0x8002
  | xor => 0x8003
  | add => 0x8004
  | subXY => 0x8005
  | shiftRight => 0x8006
  | subYX => 0x8007
  | shiftLeft => 0x800E

/-- What an operation on the numbers `a` and `b` asks of its result and its flag. -/
def Exact (a b result flag : Nat) : Operation → Prop
  | set => result = b
  | or => result = a ||| b
  | and => result = a &&& b
  | xor => result = a ^^^ b
  | add => result + 256 * flag = a + b
  | subXY => (result : Int) = a - b + 256 * (1 - flag)
  | shiftRight => 2 * result + flag = b
  | subYX => (result : Int) = b - a + 256 * (1 - flag)
  | shiftLeft => result + 256 * flag = 2 * b

/-- The bytes of an operation solve its equation. -/
theorem exact_apply (o : Operation) (a b : UInt8) :
    ∃ flag : Bool, o.Exact a.toNat b.toNat (o.apply a b).result.toNat flag.toNat ∧
      (o.apply a b).flag = if o.flagged then some flag else none := by
  cases o with
  | set => exact ⟨false, rfl, rfl⟩
  | or => exact ⟨false, UInt8.toNat_or a b, rfl⟩
  | and => exact ⟨false, UInt8.toNat_and a b, rfl⟩
  | xor => exact ⟨false, UInt8.toNat_xor a b, rfl⟩
  | add => exact ⟨_, toNat_add_carry a b, rfl⟩
  | subXY => exact ⟨_, toNat_sub_borrow a b, rfl⟩
  | shiftRight => exact ⟨_, toNat_shiftRight_bit b, rfl⟩
  | subYX => exact ⟨_, toNat_sub_borrow b a, rfl⟩
  | shiftLeft => exact ⟨_, toNat_shiftLeft_bit b, rfl⟩

end Operation

end Alu

/-- A word of an operation's form asks for it, on the registers in its second and third nibble. -/
theorem Instruction.ofWord_eq_alu {w : Word} {o : Alu.Operation} (hw : w &&& 0xF00F = o.form) :
    ofWord w = .alu o w.x w.y := by
  have hp : ⟨0xF00F, o.form, (alu o w.x w.y).opcode⟩ ∈ Opcode.patterns := by
    cases o <;> exact List.mem_of_elem_eq_true rfl
  have ho : Opcode.ofWord w = (alu o w.x w.y).opcode := (Opcode.ofWord_eq_iff hp w).mpr hw
  rw [ofWord, ho]
  cases o <;> rfl

namespace State

/-! ### Storing an outcome -/

variable {s : State} {x : Nibble}

/-- The result is stored last. -/
theorem register_setOutcome_self (s : State) (x : Nibble) (o : Alu.Outcome) :
    (s.setOutcome x o).register x = o.result := by
  unfold setOutcome
  split <;> rw [register_setRegister, if_pos rfl]

/-- The flag stays if the result goes to another register. -/
theorem register_setOutcome_flag {o : Alu.Outcome} {flag : Bool} (ho : o.flag = some flag)
    (hx : x ≠ flagRegister) : (s.setOutcome x o).register flagRegister = Alu.flagByte flag := by
  rw [setOutcome, ho, register_setRegister_of_ne _ _ hx.symm, register_setRegister, if_pos rfl]

/-! ### Executing an operation -/

/-- From `s` to `t`, an operation on the values of `VX` and `VY` was carried out exactly: `VX` is
the result and `VF` the flag, which gives way to the result if both go to `VF`.  For an operation
without a flag `VF` is a register like the others. -/
structure Computes (s t : State) (o : Alu.Operation) (x y : Nibble) (flag : Bool) : Prop where
  exact : o.Exact (s.register x).toNat (s.register y).toNat (t.register x).toNat flag.toNat
  flag : o.flagged = true → x ≠ flagRegister → (t.register flagRegister).toNat = flag.toNat
  others : ∀ k, k ≠ x → (o.flagged = true → k ≠ flagRegister) → t.register k = s.register k
  frame : t = { s with registers := t.registers, status := .ok }

/-- An operation starts from the old values and changes registers only. -/
theorem computes_perform (s : State) (o : Alu.Operation) (x y : Nibble) :
    ∃ flag, s.Computes ((s.withStatus .ok).perform (.alu o x y)) o x y flag := by
  obtain ⟨flag, hexact, hflag⟩ := o.exact_apply (s.register x) (s.register y)
  have he : (s.withStatus .ok).perform (.alu o x y) =
      (s.withStatus .ok).setOutcome x (o.apply (s.register x) (s.register y)) := rfl
  rw [he]
  refine ⟨flag, ?_, fun ho hx => ?_, fun k hk hf => ?_, setOutcome_eq _ _ _⟩
  · rw [register_setOutcome_self]
    exact hexact
  · rw [if_pos ho] at hflag
    rw [register_setOutcome_flag hflag hx, Alu.toNat_flagByte]
  · refine register_setOutcome hk fun hsome => hf ?_
    rw [← Alu.isSome_flag_apply]
    exact hsome

/-- **Register arithmetic is exact.**  A word `8XYN` of one of the nine operations leaves in `VX`
and `VF` the solution of the operation's equation for the old values of `VX` and `VY`, whichever
registers coincide, and all other registers as they were; so does a word `7XNN` with the sum modulo
256, `VF` among the others. -/
theorem execute_exact (s : State) (w : Word) :
    (∀ o : Alu.Operation, w &&& 0xF00F = o.form →
        ∃ flag, s.Computes (s.execute w) o w.x w.y flag) ∧
      (w &&& 0xF000 = 0x7000 →
        ((s.execute w).register w.x).toNat = ((s.register w.x).toNat + w.nn.toNat) % 256 ∧
          (∀ k, k ≠ w.x → (s.execute w).register k = s.register k) ∧
          s.execute w = { s with registers := (s.execute w).registers, status := .ok }) := by
  refine ⟨fun o hw => ?_, fun hw => ?_⟩
  · rw [execute_eq_perform (Instruction.ofWord_eq_alu hw)
      (fault?_of_no_access (by simp) (by simp) rfl)]
    exact s.computes_perform o w.x w.y
  · have ho : Opcode.ofWord w = .add := (Opcode.ofWord_eq_iff (by decide) w).mpr hw
    have hi : Instruction.ofWord w = .add w.x w.nn := by
      simp only [Instruction.ofWord, ho]
    rw [execute_eq_perform hi (fault?_of_no_access (by simp) (by simp) rfl)]
    refine ⟨?_, fun k hk => ?_, rfl⟩
    · show (((s.withStatus .ok).setRegister w.x _).register w.x).toNat = _
      rw [register_setRegister, if_pos rfl]
      exact UInt8.toNat_add _ _
    · exact register_setRegister_of_ne _ _ hk

/-- The flag register holds 200, and register 1 holds 5. -/
def fullFlag : State :=
  { State.initial ⟨0, 0⟩ with
    registers := #v[0, 5, 0, 0, 0, 0, 0, 0, 0, 0, 0, 0, 0, 0, 0, 200] }

/-- `8FF4` doubles the flag register and leaves the result there; `81F7` subtracts 5 from the 200 in
the flag register, which then says that nothing was borrowed; `7F64` adds 100 to it. -/
theorem execute_exact_fullFlag :
    ((fullFlag.execute 0x8FF4).register 15).toNat = 144 ∧
      ((fullFlag.execute 0x81F7).register 1).toNat = 195 ∧
      ((fullFlag.execute 0x81F7).register 15).toNat = 1 ∧
      ((fullFlag.execute 0x7F64).register 15).toNat = 44 := by
  obtain ⟨carry, hdouble⟩ := (execute_exact fullFlag 0x8FF4).1 .add (by decide)
  obtain ⟨kept, hdiff⟩ := (execute_exact fullFlag 0x81F7).1 .subYX (by decide)
  obtain ⟨hsum, -, -⟩ := (execute_exact fullFlag 0x7F64).2 (by decide)
  refine ⟨?_, ?_, ?_, hsum⟩
  · have he : ((fullFlag.execute 0x8FF4).register 15).toNat + 256 * carry.toNat = 200 + 200 :=
      hdouble.exact
    have hlt : ((fullFlag.execute 0x8FF4).register 15).toNat < 256 := UInt8.toNat_lt _
    have hbit := carry.toNat_le
    omega
  all_goals
    have he : (((fullFlag.execute 0x81F7).register 1).toNat : Int) =
        (200 : Nat) - (5 : Nat) + 256 * (1 - kept.toNat) := hdiff.exact
    have hf : ((fullFlag.execute 0x81F7).register 15).toNat = kept.toNat :=
      hdiff.flag rfl (by decide)
    have hlt : ((fullFlag.execute 0x81F7).register 1).toNat < 256 := UInt8.toNat_lt _
    have hbit := kept.toNat_le
    omega

end State

end Chip8
