/-!
Cells of a row of storage named by a signed index.  Three rules meet here: a negative index counts
from the end; a read outside the row answers with the nearest cell; a write outside it is dropped.

`nearest_of_lt` and `within?_of_lt` say that an index of the row is itself under both rules, so they
only matter to a host that reaches outside.
-/

namespace Chip8.Cell

/-- A negative index counts from the end of `size` cells. -/
def fromEnd (size : Nat) (i : Int) : Int :=
  if i < 0 then i + size else i

/-- The cell a read at `i` answers with, out of `size` cells. -/
def nearest (size : Nat) (i : Int) : Nat :=
  min (fromEnd size i).toNat (size - 1)

/-- The cell a write at `i` replaces, if there is one. -/
def within? (size : Nat) (i : Int) : Option Nat :=
  if 0 ≤ fromEnd size i ∧ fromEnd size i < size then some (fromEnd size i).toNat else none

theorem nearest_lt {size : Nat} (h : 0 < size) (i : Int) : nearest size i < size := by
  unfold nearest
  omega

theorem lt_of_within? {size k : Nat} {i : Int} (h : within? size i = some k) : k < size := by
  unfold within? at h
  split at h
  · cases h
    omega
  · cases h

/-- An index of the row reads itself. -/
theorem nearest_of_lt {size k : Nat} (h : k < size) : nearest size k = k := by
  unfold nearest fromEnd
  split <;> omega

/-- An index of the row is written at itself. -/
theorem within?_of_lt {size k : Nat} (h : k < size) : within? size k = some k := by
  have hk : fromEnd size k = k := by
    unfold fromEnd
    split <;> omega
  unfold within?
  rw [hk, if_pos ⟨by omega, by omega⟩, Int.toNat_natCast]

end Chip8.Cell
