import Chip8.Proofs.Cycle.Outcome

/-!
Programs that store over the instruction being executed.  A cycle that ends without a fault changes
memory only by the bytes its instruction stores from `I` on, so the word at the old `pc` is
afterwards what it was before unless one of these bytes lands on it and differs from the byte there.

`word_step_eq_iff` makes this exact: `State.KeepsWord`, a condition on the state before the step, is
equivalent to the word still standing at its place after the step.
-/

namespace Chip8

namespace State

/-! ### Memory after a cycle -/

/-- Without a fault, memory changes by the bytes the instruction stores. -/
theorem memory_step {s : State} (hs : s.halted = false) (ht : s.step.halted = false) :
    s.step.memory = s.memory.writeAll s.index.toNat (s.stores (Instruction.ofWord s.word)) := by
  have hb : s.begun.stores (Instruction.ofWord s.word) =
      s.stores (Instruction.ofWord s.word) := rfl
  rw [(step_executed hs ht).2, ← hb]
  exact perform_memory _ _

/-! ### The word at the old `pc` -/

/-- Every byte the word at `pc` stores over itself is the byte already there. -/
def KeepsWord (s : State) : Prop :=
  ∀ i b, (s.stores (Instruction.ofWord s.word))[i]? = some b →
    s.index.toNat + i = s.pc.toNat ∨ s.index.toNat + i = s.pc.toNat + 1 →
    b = s.memory.read (s.index.toNat + i)

/-- After a step without a fault, the word executed still stands at its place exactly if it kept
itself. -/
theorem word_step_eq_iff {s : State} (hs : s.halted = false) (ht : s.step.halted = false) :
    s.step.memory.readWord s.pc.toNat = s.word ↔ s.KeepsWord := by
  -- the word is kept if both of its bytes are
  have hp := (step_executed hs ht).1
  rw [memory_step hs ht, word, Memory.readWord, Memory.readWord, Memory.joinBytes_inj,
    Memory.read_writeAll_eq_iff _ _ _ (by omega), Memory.read_writeAll_eq_iff _ _ _ (by omega)]
  constructor
  · rintro ⟨h0, h1⟩ i b hb (he | he)
    · rw [he]
      exact h0 i b hb he
    · rw [he]
      exact h1 i b hb he
  · intro h
    refine ⟨fun i b hb he => ?_, fun i b hb he => ?_⟩
    · rw [h i b hb (.inl he), he]
    · rw [h i b hb (.inr he), he]

end State

end Chip8
