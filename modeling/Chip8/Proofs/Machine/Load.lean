import Chip8.Proofs.Host.Program
import Chip8.Proofs.Machine.Run

/-!
Loading a program.  A load is all or nothing: an argument that spells no bytes is refused for its
value, bytes that do not fit are refused for their number, and neither leaves a trace in the
machine; otherwise the bytes stand from `0x200` on and nothing else of the state has changed.

* `Machine.Loads` — what a load that is taken does;
* `loadProgram_of_error`, `loadProgram_of_le`, `loadProgram_of_lt` — the three ways a load can end.

Main result: `loadProgram_contract`.  An array has at most 64 extents, so a sequence that is nested
more deeply is refused even if there is no element in it (`loadProgram_nested`).
-/

namespace Chip8

open Host Host.Value

namespace Machine

/-! ### Three ways a load can end -/

/-- A value that stands for bytes is loaded into the machine: what becomes of its state. -/
structure Loads (m : Machine) (v : Value) (bytes : List UInt8) (s : State) : Prop where
  reply : (m.loadProgram v).outcome = .ok () ∧ (m.loadProgram v).machine.state = s
  /-- The bytes stand from `0x200` on. -/
  program : ∀ i (h : i < bytes.length), s.memory.read (0x200 + i) = bytes[i]
  /-- No other byte of memory has changed. -/
  memory : ∀ a < 4096, a < 0x200 ∨ 0x200 + bytes.length ≤ a → s.memory.read a = m.state.memory.read a
  /-- Nothing but memory has changed. -/
  rest : s = { m.state with memory := s.memory }
  /-- The state takes the value, and the array of its bytes as well. -/
  state : m.state.loadProgram v = .ok s ∧
    m.state.loadProgram (ofBytes (.unsigned 8) bytes) = .ok s

variable {v : Value} {bytes : List UInt8}

theorem loadProgram_of_error {e : Error} (h : v.programBytes = .error e) (m : Machine) :
    m.loadProgram v = ⟨m, .error e, []⟩ ∧ m.state.loadProgram v = .error e := by
  rw [loadProgram, State.loadProgram, h]
  exact ⟨rfl, rfl⟩

theorem loadProgram_of_lt (h : v.programBytes = .ok bytes) (hlength : 0xE00 < bytes.length)
    (m : Machine) :
    m.loadProgram v = ⟨m, .error (.programTooLarge bytes.length 0xE00), []⟩ ∧
      m.state.loadProgram v = .error (.programTooLarge bytes.length 0xE00) := by
  have hmemory : m.state.memory.loadProgram bytes = .error (.programTooLarge bytes.length 0xE00) :=
    if_neg (Nat.not_le.mpr hlength)
  rw [loadProgram, State.loadProgram, h]
  simp only [hmemory, bind, Except.bind]
  exact ⟨trivial, trivial⟩

/-- The state takes bytes that fit. -/
theorem state_loadProgram_of_le (h : v.programBytes = .ok bytes) (hlength : bytes.length ≤ 0xE00)
    (s : State) :
    s.loadProgram v = .ok { s with memory := s.memory.writeAll 0x200 bytes } := by
  have hmemory : s.memory.loadProgram bytes = .ok (s.memory.writeAll 0x200 bytes) := if_pos hlength
  rw [State.loadProgram, h]
  simp only [hmemory, bind, Except.bind]

theorem loadProgram_of_le (h : v.programBytes = .ok bytes) (hlength : bytes.length ≤ 0xE00)
    (m : Machine) :
    m.Loads v bytes { m.state with memory := m.state.memory.writeAll 0x200 bytes } := by
  have hmemory : m.state.memory.loadProgram bytes = .ok (m.state.memory.writeAll 0x200 bytes) :=
    if_pos hlength
  have hagain : (ofBytes (.unsigned 8) bytes).programBytes = .ok bytes := arrayBytes_ofBytes rfl bytes
  refine ⟨?_, fun i hi => ?_, fun a ha hout => ?_, rfl, state_loadProgram_of_le h hlength m.state,
    state_loadProgram_of_le hagain hlength m.state⟩
  · rw [loadProgram, h]
    simp only [hmemory]
    exact ⟨trivial, rfl⟩
  · show (m.state.memory.writeAll 0x200 bytes).read (0x200 + i) = bytes[i]
    rw [Memory.read_writeAll _ _ _ _ (by omega), if_pos (Nat.le_add_right _ _),
      Nat.add_sub_cancel_left, List.getElem?_eq_getElem hi, Option.getD_some]
  · show (m.state.memory.writeAll 0x200 bytes).read a = m.state.memory.read a
    rw [Memory.read_writeAll _ _ _ _ ha]
    by_cases hlow : 0x200 ≤ a
    · rw [if_pos hlow, List.getElem?_eq_none (by omega), Option.getD_none]
    · rw [if_neg hlow]

/-! ### The contract of a load -/

/-- **A load is all or nothing.**  An argument is read as bytes exactly if it spells them: a buffer,
an array of at most 64 extents with nothing in it, or a row of integers between 0 and 255, truth
values among them.  Any other argument is refused for its value, and bytes that do not fit for their
number; then the machine is as it was, and nobody has heard of it.  Bytes that fit are loaded, and
nothing else of the state changes; the same bytes make the same state, however they are written. -/
theorem loadProgram_contract (v : Value) (hv : Argument v) :
    (∀ bytes, v.programBytes = .ok bytes ↔ Spells v bytes) ∧
      ((∀ bytes, ¬Spells v bytes) →
        ∃ e, e.isValueError = true ∧ ∀ m : Machine,
          m.loadProgram v = ⟨m, .error e, []⟩ ∧ m.state.loadProgram v = .error e) ∧
      ∀ bytes, Spells v bytes → ∀ m : Machine,
        (3584 < bytes.length →
          m.loadProgram v = ⟨m, .error (.programTooLarge bytes.length 3584), []⟩ ∧
            m.state.loadProgram v = .error (.programTooLarge bytes.length 3584)) ∧
        (bytes.length ≤ 3584 → ∃ s, m.Loads v bytes s) ∧
        ∀ v', Argument v' → Spells v' bytes → m.state.loadProgram v' = m.state.loadProgram v := by
  refine ⟨fun bytes => programBytes_eq_ok_iff hv, fun h => ?_, fun bytes h m => ?_⟩
  · obtain ⟨e, he, hvalue⟩ := programBytes_of_not_spells hv h
    exact ⟨e, hvalue, loadProgram_of_error he⟩
  · have hbytes : v.programBytes = .ok bytes := (programBytes_eq_ok_iff hv).mpr h
    refine ⟨fun hl => loadProgram_of_lt hbytes hl m, fun hl => ⟨_, loadProgram_of_le hbytes hl m⟩,
      fun v' hv' h' => ?_⟩
    have hbytes' : v'.programBytes = .ok bytes := (programBytes_eq_ok_iff hv').mpr h'
    rw [State.loadProgram, State.loadProgram, hbytes, hbytes']

/-- The list `[True, 255]` is the program `01FF`. -/
theorem loadProgram_mixedRow :
    Argument (.list [.bool true, .int 255]) ∧
      ∃ s : State, ((watched (State.initial ⟨0, 0⟩)).loadProgram
          (.list [.bool true, .int 255])).machine.state = s ∧
        s.memory.read 0x200 = 1 ∧ s.memory.read 0x201 = 255 ∧ s.pc = 0x200 := by
  have hv : Argument (.list [.bool true, .int 255]) := by
    refine .plain (.list fun v hin => ?_)
    rcases List.mem_cons.mp hin with rfl | hin
    · exact .number _
    · rw [List.mem_singleton.mp hin]
      exact .number _
  have hspells : Spells (.list [.bool true, .int 255]) [1, 255] :=
    .row (.inl rfl) (.cons (.bool true) (.cons (.int 255) .nil))
      ⟨255, List.mem_cons_of_mem _ List.mem_cons_self⟩
  obtain ⟨-, -, hload⟩ := loadProgram_contract _ hv
  obtain ⟨-, hfits, -⟩ := hload [1, 255] hspells (watched (State.initial ⟨0, 0⟩))
  obtain ⟨s, hloads⟩ := hfits (by decide)
  refine ⟨hv, s, hloads.reply.2, hloads.program 0 (by decide), hloads.program 1 (by decide), ?_⟩
  rw [hloads.rest]
  rfl

/-! ### Nesting without elements -/

/-- Lists around an empty list, one in the other. -/
def nested : Nat → Value
  | 0 => .list []
  | n + 1 => .list [nested n]

theorem plain_nested (n : Nat) : Plain (nested n) := by
  induction n with
  | zero => exact .list fun v hv => absurd hv List.not_mem_nil
  | succ n ih => exact .list fun v hv => List.mem_singleton.mp hv ▸ ih

theorem elements_nested (n : Nat) : (nested n).elements = [] := by
  induction n with
  | zero => simp only [nested, elements, elementsOf]
  | succ n ih => simp only [nested, elements, elementsOf, ih, List.append_nil]

/-- A list around an empty one has no more elements than that has, but one more extent. -/
theorem extentsFrom_nested {depth n : Nat} (h : depth ≤ n) :
    extentsFrom depth [nested n] = .tooDeep := by
  induction depth generalizing n with
  | zero => cases n <;> rfl
  | succ depth ih =>
    cases n with
    | zero => exact absurd h (Nat.not_succ_le_zero depth)
    | succ n =>
      have hlevel : level [nested (n + 1)] = .sequences 1 [nested n] := rfl
      rw [extentsFrom_succ_of_sequences hlevel, ih (Nat.le_of_succ_le_succ h)]
      rfl

/-- Sixty-five brackets with nothing between them are an argument without elements, and are
refused. -/
theorem loadProgram_nested :
    Argument (nested 64) ∧ (nested 64).elements = [] ∧
      Error.isValueError (.tooDeep 64) = true ∧
      (watched (State.initial ⟨0, 0⟩)).loadProgram (nested 64) =
        ⟨watched (State.initial ⟨0, 0⟩), .error (.tooDeep 64), []⟩ := by
  -- sixty-four levels lead to the empty list, which would be one more
  have hdeep : (nested 64).extents = .tooDeep := extentsFrom_nested (Nat.le_refl 64)
  have hbytes : (nested 64).programBytes = .error (.tooDeep 64) := by
    show (nested 64).arrayBytes = _
    rw [arrayBytes, hdeep]
    rfl
  exact ⟨.plain (plain_nested 64), elements_nested 64, rfl, (loadProgram_of_error hbytes _).1⟩

end Machine

end Chip8
