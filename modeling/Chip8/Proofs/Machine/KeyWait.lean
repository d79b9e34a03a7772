import Chip8.Proofs.Machine.Call
import Mathlib.Data.Finset.Max
import Mathlib.Order.Fin.Basic

/-!
Waiting for a key.  `FX0A` with no key down takes back the advance of `pc`, so the next cycle meets
it again.  Such a cycle is no fault and ticks the timers.

* `step_of_waits` — one poll: the status changes and the timers tick, and nothing else.
* `run_of_waits` — so the state after a poll waits as before, and `n` polls leave `State.waited n`.
* `lowestKeyDown?_eq_min` — the key found is the least one of the keys that are down, in whatever
  order they went down.
* `step_of_keyDown` — the poll that finds a key.

Main result: `wait_polls_until_key`.
-/

namespace Chip8

namespace State

/-! ### Timers over polls -/

/-- A timer after `n` ticks. -/
def tickBy (t : UInt8) (n : Nat) : UInt8 :=
  UInt8.ofNat (t.toNat - n)

theorem toNat_tickBy (t : UInt8) (n : Nat) : (tickBy t n).toNat = t.toNat - n :=
  UInt8.toNat_ofNat_of_lt' ((Nat.sub_le _ _).trans_lt t.toNat_lt)

theorem tickBy_one (t : UInt8) : tickBy t 1 = tick t := by
  rw [← UInt8.toNat_inj, toNat_tickBy, toNat_tick]

theorem tickBy_tickBy (t : UInt8) (m n : Nat) : tickBy (tickBy t m) n = tickBy t (m + n) := by
  rw [← UInt8.toNat_inj, toNat_tickBy, toNat_tickBy, toNat_tickBy, Nat.sub_sub]

/-- The state after `n` polls that found no key. -/
def waited (s : State) (n : Nat) : State :=
  { s with
    delayTimer := tickBy s.delayTimer n
    soundTimer := tickBy s.soundTimer n
    status := .waitingForKey }

theorem waited_waited (s : State) (m n : Nat) : (s.waited m).waited n = s.waited (m + n) := by
  simp only [waited, tickBy_tickBy]

/-- The state after a poll that found a key: its number is in a register, and `pc` is past the
word. -/
def resumed (s : State) (x k : Nibble) : State :=
  { s.setRegister x (UInt8.ofNat k.val) with
    pc := s.pc + 2
    delayTimer := tickBy s.delayTimer 1
    soundTimer := tickBy s.soundTimer 1
    status := .ok }

/-! ### One poll -/

variable {s : State}

/-- A word `FX0A` is executed as a wait. -/
theorem step_eq_perform_waitForKey (hs : s.halted = false) (hp : s.pc.toNat ≤ 0xFFE)
    (hw : s.word &&& 0xF0FF = 0xF00A) :
    s.step = (s.begun.perform (.waitForKey s.word.x)).tickTimers := by
  have ho : Opcode.ofWord s.word = .waitForKey := (Opcode.ofWord_eq_iff (by decide) _).mpr hw
  have hi : Instruction.ofWord s.word = .waitForKey s.word.x := by rw [Instruction.ofWord, ho]
  exact (step_eq_perform hs hp hi (fault?_of_no_access (by simp) (by simp) rfl)).1

theorem step_of_waits (hs : s.halted = false) (hp : s.pc.toNat ≤ 0xFFE) (hw : s.Waits) :
    s.step = s.waited 1 := by
  have hnone : s.begun.lowestKeyDown? = none := s.lowestKeyDown?_eq_none_iff.mpr hw.2
  have hpc : s.pc + 2 - 2 = s.pc := UInt16.add_sub_cancel _ _
  rw [step_eq_perform_waitForKey hs hp hw.1, perform, hnone, waited, tickBy_one, tickBy_one]
  show { s.tickTimers with pc := s.pc + 2 - 2, status := .waitingForKey } = _
  rw [hpc]
  rfl

theorem step_of_keyDown {k : Nibble} (hs : s.halted = false) (hp : s.pc.toNat ≤ 0xFFE)
    (hw : s.word &&& 0xF0FF = 0xF00A) (hk : s.lowestKeyDown? = some k) :
    s.step = s.resumed s.word.x k := by
  have hfound : s.begun.lowestKeyDown? = some k := hk
  rw [step_eq_perform_waitForKey hs hp hw, perform, hfound, resumed, tickBy_one, tickBy_one]
  rfl

/-- Polls in a row. -/
theorem run_of_waits (hs : s.halted = false) (hp : s.pc.toNat ≤ 0xFFE) (hw : s.Waits) (n : Nat) :
    s.run (n + 1) = (s.waited (n + 1), List.replicate (n + 1) .waitingForKey) := by
  induction n generalizing s with
  | zero =>
    rw [run, step_of_waits hs hp hw]
    rfl
  | succ n ih =>
    -- the state after the first poll waits just as well
    have hrest := ih (s := s.waited 1) rfl hp hw
    rw [run, step_of_waits hs hp hw, hrest, waited_waited, Nat.add_comm 1]
    rfl

/-! ### The key found -/

theorem lowestKeyDown?_eq_min {down : Finset Nibble} (hne : down.Nonempty)
    (hdown : ∀ k, s.keyDown k = true ↔ k ∈ down) : s.lowestKeyDown? = some (down.min' hne) := by
  refine List.find?_eq_some_iff_getElem.mpr ⟨(hdown _).mpr (down.min'_mem hne),
    (down.min' hne).val, ?_, ?_, fun j hj => ?_⟩
  · rw [List.length_finRange]
    exact (down.min' hne).isLt
  · rw [List.getElem_finRange]
    rfl
  · rw [List.getElem_finRange, Bool.not_eq_true']
    refine Bool.eq_false_iff.mpr fun hon => ?_
    exact absurd (down.min'_le _ ((hdown _).mp hon)) (Nat.not_le_of_lt hj)

/-! ### Calls that move keys -/

/-- The action presses or releases a key, or tries to. -/
def Action.isKey : Action → Bool
  | .press _ | .release _ => true
  | .step | .load _ => false

/-- Pressing and releasing keys moves the keypad and nothing else. -/
theorem follow_of_isKey {keys : List Action} (hkeys : ∀ a ∈ keys, a.isKey = true) (s : State) :
    s.follow keys = { s with keypad := (s.follow keys).keypad } := by
  induction keys generalizing s with
  | nil => rfl
  | cons a rest ih =>
    have hrest := ih fun b hb => hkeys b (List.mem_cons_of_mem a hb)
    obtain ⟨keypad, ha⟩ : ∃ keypad, s.act a = { s with keypad := keypad } := by
      cases a with
      | press key => exact s.accept_setKeyNamed key true
      | release key => exact s.accept_setKeyNamed key false
      | step | load => exact absurd (hkeys _ List.mem_cons_self) Bool.false_ne_true
    show (s.act a).follow rest = { s with keypad := ((s.act a).follow rest).keypad }
    rw [hrest, ha]

/-- **Waiting for a key is polling.**  Let a state that is not halted have `FX0A` at `pc` and no key
down.  Each of `n` cycles ends waiting, and together they change the status and take `n` off both
timers, as far as they go.  If keys are then pressed and released in any way, some call being
refused perhaps, and at least one is down at the end, then the next cycle stores the least of them
in `VX`, goes on to the address after `FX0A`, ends normally and ticks the timers once, and changes
nothing else.  A machine in that state goes the same way. -/
theorem wait_polls_until_key (s : State) (hs : s.halted = false) (hp : s.pc.toNat ≤ 0xFFE)
    (hw : s.word &&& 0xF0FF = 0xF00A) (hup : ∀ k, s.keyDown k = false) :
    (∀ n, 0 < n → s.run n = (s.waited n, List.replicate n .waitingForKey)) ∧
      ∀ (n : Nat) (keys : List Action) (t : State) (down : Finset Nibble) (hne : down.Nonempty),
        (∀ a ∈ keys, a.isKey = true) → t = (s.run n).1.follow keys →
        (∀ k, t.keyDown k = true ↔ k ∈ down) →
        t = { (s.run n).1 with keypad := t.keypad } ∧
          t.step = t.resumed s.word.x (down.min' hne) ∧
          t.step.pc.toNat = s.pc.toNat + 2 ∧
          ∀ m : Machine, m.state = s →
            (m.after ((List.replicate n Action.step ++ keys ++ [Action.step]).map .act)).state =
              t.step := by
  have hpoll (n : Nat) := run_of_waits hs hp ⟨hw, hup⟩ n
  refine ⟨fun n hn => ?_, fun n keys t down hne hkeys ht hdown => ?_⟩
  · obtain ⟨n, rfl⟩ := Nat.exists_eq_add_one.mpr hn
    exact hpoll n
  · have hkeypad : t = { (s.run n).1 with keypad := t.keypad } := by
      rw [ht]
      exact follow_of_isKey hkeys _
    -- neither the polls nor the keys move `pc` or touch memory, and none of them halts
    obtain ⟨hhalted, hpc, hword⟩ :
        t.halted = false ∧ t.pc = s.pc ∧ t.word = s.word := by
      rw [hkeypad]
      cases n with
      | zero => exact ⟨hs, rfl, rfl⟩
      | succ n =>
        rw [hpoll n]
        exact ⟨rfl, rfl, rfl⟩
    have hstep : t.step = t.resumed s.word.x (down.min' hne) := by
      rw [← hword]
      exact step_of_keyDown hhalted (hpc ▸ hp) (hword ▸ hw) (lowestKeyDown?_eq_min hne hdown)
    refine ⟨hkeypad, hstep, ?_, fun m hm => ?_⟩
    · rw [hstep, resumed, hpc]
      exact toNat_pc_add_two (by omega)
    · rw [(m.after_act _).1, hm, follow_append, follow_append, ← run_eq_follow, ← ht]
      rfl

/-- `F50A` at the very start of memory, so that the fetch is taken back to `pc` zero. -/
def waitAtZero : State :=
  { State.initial ⟨0, 0⟩ with
    memory := Memory.zero.writeAll 0 [0xF5, 0x0A]
    pc := 0
    delayTimer := 2
    soundTimer := 9 }

/-- Keys nine, two and four are pressed in this order, and two is released; a text names no key. -/
def nineBeforeFour : List Action :=
  [.press (.int 9), .press (.int 2), .press (.text "0"), .press (.int 4), .release (.int 2)]

/-- Three polls, of which the delay timer has ticks for two; then key four is found. -/
theorem wait_polls_until_key_waitAtZero :
    (waitAtZero.run 3).1.pc = 0 ∧ (waitAtZero.run 3).1.delayTimer = 0 ∧
      (waitAtZero.run 3).1.soundTimer = 6 ∧
      ((waitAtZero.run 3).1.follow nineBeforeFour).step.register 5 = 4 ∧
      ((waitAtZero.run 3).1.follow nineBeforeFour).step.pc.toNat = 2 ∧
      ((waitAtZero.run 3).1.follow nineBeforeFour).step.soundTimer = 5 := by
  obtain ⟨hpoll, hkey⟩ := wait_polls_until_key waitAtZero (by decide) (by decide)
    (by decide +kernel) (by decide)
  have hwaited : (waitAtZero.run 3).1 = waitAtZero.waited 3 := by
    rw [hpoll 3 (by decide)]
  have hdown (k : Nibble) : ((waitAtZero.run 3).1.follow nineBeforeFour).keyDown k = true ↔
      k ∈ ({4, 9} : Finset Nibble) := by
    rw [hwaited]
    revert k
    decide +kernel
  obtain ⟨-, hstep, hpc, -⟩ := hkey 3 nineBeforeFour _ {4, 9} ⟨4, by decide⟩ (by decide) rfl hdown
  refine ⟨hwaited ▸ rfl, hwaited ▸ rfl, hwaited ▸ rfl, ?_, hpc, ?_⟩
  · rw [hstep, hwaited]
    decide +kernel
  · rw [hstep, hwaited]
    decide +kernel

end State

end Chip8
