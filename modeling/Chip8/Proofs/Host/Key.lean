import Chip8.Host.Key

/-!
Which values name a key.  `Value.Integral` is the relation between a value and the integer it is: an
integer of any size, a number stored as an integer wherever it lives, or an array of integers that
is such a number.  Truth values are not integral, nor are fractions, text, and sequences.

A value names a key exactly if it is integral and lies between 0 and 15 (`key_eq_ok_iff`), and any
other value is refused by an error that carries it (`key_eq_error`), unless that cannot be raised for
want of words (`invalidKey_raised`).  The lemmas at the end say the same of the operations on a state
that take such a value.
-/

namespace Chip8

/-- Integers from 0 to 15 are the keys. -/
theorem Nibble.ofInt?_eq_some_iff (i : Int) (k : Nibble) :
    Nibble.ofInt? i = some k ↔ i = k.val := by
  have hk := k.isLt
  rw [Nibble.ofInt?]
  constructor
  · intro h
    split at h
    · rename_i hi
      rw [← Option.some.inj h]
      show i = (i.toNat : Int)
      omega
    · cases h
  · rintro rfl
    rw [dif_pos (by omega)]
    rfl

namespace Host.Value

/-- The value is an integer, and not a truth value. -/
inductive Integral : Value → Int → Prop
  /-- An integer of any size. -/
  | plain (i : Int) : Integral (number (.int i)) i
  /-- A number stored as an integer. -/
  | sized (place : Place) (type : ElementType) (i : Int) :
    type.isInteger = true → Integral (sized place type (.int i)) i
  /-- An array of integers without dimensions. -/
  | scalar (type : ElementType) (i : Int) :
    type.isInteger = true → Integral (array type (number (.int i))) i

/-- Storage types for integers are not for truth values. -/
theorem ne_boolean_of_isInteger {type : ElementType} (h : type.isInteger = true) :
    (type == .boolean) = false := by
  cases type with
  | signed bits | unsigned bits => rfl
  | _ => cases h

/-- The integral values are those that count as an integer and are not truth values. -/
theorem integral_iff (v : Value) (i : Int) :
    v.Integral i ↔ v.isTruthValue = false ∧ v.index? = some i := by
  constructor
  · intro h
    cases h with
    | plain => exact ⟨rfl, rfl⟩
    | sized place type i ht => exact ⟨ne_boolean_of_isInteger ht, if_pos ht⟩
    | scalar type i ht => exact ⟨ne_boolean_of_isInteger ht, if_pos ht⟩
  · rintro ⟨ht, hi⟩
    unfold index? at hi
    split at hi
    · cases ht
    · rw [← Option.some.inj hi]
      exact .plain _
    · rename_i place type j
      split at hi
      · rename_i hint
        rw [← Option.some.inj hi]
        exact .sized place type j hint
      · cases hi
    · rename_i type j
      split at hi
      · rename_i hint
        rw [← Option.some.inj hi]
        exact .scalar type j hint
      · cases hi
    · cases hi

/-- A value names the key that it is as an integer. -/
theorem key_eq_ok_iff (v : Value) (k : Nibble) : v.key = .ok k ↔ v.Integral k.val := by
  rw [integral_iff, key]
  rcases v.isTruthValue with - | -
  · rcases v.index? with - | i
    · simp
    · simp only [Bool.false_eq_true, if_false, Option.bind_some, true_and, Option.some.injEq,
        ← Nibble.ofInt?_eq_some_iff]
      rcases Nibble.ofInt? i with - | k' <;> simp
  · simp

/-- A value that names no key is refused. -/
theorem key_eq_error {v : Value} (h : ∀ k : Nibble, ¬v.Integral k.val) :
    v.key = .error (Error.invalidKey v).raised := by
  rcases hk : v.key with e | k
  · -- there is one way only to be refused
    rw [key] at hk
    split at hk
    · cases hk
    · exact hk.symm
  · exact absurd ((v.key_eq_ok_iff k).mp hk) (h k)

/-- The error for a value that names no key carries the value, if that can be written. -/
theorem invalidKey_raised (v : Value) :
    (v.isWritable = true → (Error.invalidKey v).raised = .invalidKey v) ∧
      (v.isWritable = false → (Error.invalidKey v).raised = .tooManyDigits) :=
  ⟨fun h => if_pos h, fun h => if_neg (Bool.eq_false_iff.mp h)⟩

end Host.Value

namespace State

open Host

variable (s : State) {v : Value} {k : Nibble}

theorem setKeyNamed_of_integral (h : v.Integral k.val) (down : Bool) :
    s.setKeyNamed v down = .ok (s.setKey k down) := by
  rw [setKeyNamed, (v.key_eq_ok_iff k).mpr h]
  rfl

theorem setKeyNamed_of_not_integral (h : ∀ k : Nibble, ¬v.Integral k.val) (down : Bool) :
    s.setKeyNamed v down = .error (Error.invalidKey v).raised := by
  rw [setKeyNamed, Value.key_eq_error h]
  rfl

theorem isKeyDown_of_integral (h : v.Integral k.val) : s.isKeyDown v = .ok (s.keyDown k) := by
  rw [isKeyDown, (v.key_eq_ok_iff k).mpr h]
  rfl

theorem isKeyDown_of_not_integral (h : ∀ k : Nibble, ¬v.Integral k.val) :
    s.isKeyDown v = .error (Error.invalidKey v).raised := by
  rw [isKeyDown, Value.key_eq_error h]
  rfl

end State

end Chip8
