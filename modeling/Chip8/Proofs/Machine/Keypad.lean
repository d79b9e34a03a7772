import Chip8.Proofs.Host.Key
import Chip8.Proofs.Machine.Call
import Mathlib.Data.List.Induction

/-!
The keypad over the calls of a host.  `Call.Moves k c down` says that a call is one that presses or
releases key `k` and is accepted, and `Held k calls` that the last such call of a list pressed it.
A machine with a key down keeps it down until such a call: `HeldOn` is the level of a key after calls
on any machine, and on a fresh one, where all keys are up, it is `Held` (`heldOn_iff_held`).

* Cycles leave the keypad alone (`keypad_step`), whatever word they execute and however they end, so
  a call that moves no key leaves every level as it was (`keyDown_call_of_not_moves`).
* `keyDown_after` — after any calls a key is down exactly if the last call that moved it pressed it,
  or none moved it and it was down before.
* `skipsIf_keyDown`, `skipsIf_keyUp` — the two instructions that test a key go by the level of the
  key that the low nibble of a register names.

Main result: `keypad_follows_host`.
-/

namespace Chip8

namespace State

variable {s : State}

/-! ### Levels -/

theorem keyDown_setKey (s : State) (k k' : Nibble) (down : Bool) :
    (s.setKey k down).keyDown k' = if k = k' then down else s.keyDown k' := by
  simp only [keyDown, setKey, Vector.getElem_set, Fin.ext_iff]

/-- A value that does not name a key leaves its level alone, whether it is accepted or not. -/
theorem keyDown_accept_setKeyNamed (s : State) {v : Host.Value} {k : Nibble}
    (h : ¬v.Integral k.val) (down : Bool) :
    (s.accept (s.setKeyNamed v down)).keyDown k = s.keyDown k := by
  by_cases hv : ∃ k' : Nibble, v.Integral k'.val
  · obtain ⟨k', hv⟩ := hv
    have hne : k' ≠ k := by
      rintro rfl
      exact h hv
    rw [s.setKeyNamed_of_integral hv, accept, keyDown_setKey, if_neg hne]
  · rw [s.setKeyNamed_of_not_integral fun k' hv' => hv ⟨k', hv'⟩]
    rfl

/-- No cycle changes the keypad. -/
theorem keypad_step (s : State) : s.step.keypad = s.keypad := by
  cases s.step_view with
  | halted hs ht => rw [ht]
  | faulted f hs hf ht => rw [ht]
  | executed hs hf hp ht hh =>
    rw [ht]
    exact perform_keypad s.begun _

/-- Nor does any number of them. -/
theorem keyDown_steps (s : State) (n : Nat) (k : Nibble) :
    (s.follow (List.replicate n .step)).keyDown k = s.keyDown k := by
  have hkeypad : (s.follow (List.replicate n .step)).keypad = s.keypad := by
    induction n generalizing s with
    | zero => rfl
    | succ n ih => exact (ih s.step).trans s.keypad_step
  rw [keyDown, hkeypad]
  rfl

/-! ### Skips -/

/-- The next step ends normally, and passes over the word after it if a condition holds. -/
structure SkipsIf (s : State) (p : Prop) : Prop where
  status : s.step.status = .ok
  skip : p → s.step.pc.toNat = s.pc.toNat + 4
  proceed : ¬p → s.step.pc.toNat = s.pc.toNat + 2

theorem skipsIf_of_skip {c : Condition} (hs : s.halted = false) (hp : s.pc.toNat ≤ 0xFFE)
    (hi : Instruction.ofWord s.word = .skip c) : s.SkipsIf (s.holds c = true) := by
  obtain ⟨he, hh⟩ := step_eq_perform hs hp hi (fault?_of_no_access (by simp) (by simp) rfl)
  have hpc := toNat_step_pc hs hh
  have hb : s.begun.pc.toNat = s.pc.toNat + 2 := toNat_pc_add_two (by omega)
  have hholds : s.begun.holds c = s.holds c := by
    cases c <;> rfl
  rw [hi, nextPc, hholds, hb] at hpc
  refine ⟨?_, fun h => ?_, fun h => ?_⟩
  · rw [he]
    exact perform_status s.begun (.skip c)
  · rw [if_pos h] at hpc
    omega
  · rw [if_neg h] at hpc
    omega

/-- `EX9E` skips if the key that the low nibble of `VX` names is down. -/
theorem skipsIf_keyDown {k : Nibble} (hs : s.halted = false) (hp : s.pc.toNat ≤ 0xFFE)
    (hk : k.val = (s.register s.word.x).toNat % 16) (hw : s.word &&& 0xF0FF = 0xE09E) :
    s.SkipsIf (s.keyDown k = true) := by
  have ho : Opcode.ofWord s.word = .skipIfKey := (Opcode.ofWord_eq_iff (by decide) _).mpr hw
  have hi : Instruction.ofWord s.word = .skip (.keyDown s.word.x) := by
    simp only [Instruction.ofWord, ho]
  have hkey : k = Nibble.ofByte (s.register s.word.x) := Fin.ext hk
  rw [hkey]
  exact skipsIf_of_skip hs hp hi

/-- `EXA1` skips if it is up. -/
theorem skipsIf_keyUp {k : Nibble} (hs : s.halted = false) (hp : s.pc.toNat ≤ 0xFFE)
    (hk : k.val = (s.register s.word.x).toNat % 16) (hw : s.word &&& 0xF0FF = 0xE0A1) :
    s.SkipsIf (s.keyDown k = false) := by
  have ho : Opcode.ofWord s.word = .skipIfNotKey := (Opcode.ofWord_eq_iff (by decide) _).mpr hw
  have hi : Instruction.ofWord s.word = .skip (.keyUp s.word.x) := by
    simp only [Instruction.ofWord, ho]
  have hkey : k = Nibble.ofByte (s.register s.word.x) := Fin.ext hk
  have hskip := skipsIf_of_skip hs hp hi
  rw [holds, Bool.not_eq_true', ← hkey] at hskip
  exact hskip

end State

namespace Machine

open Host

/-! ### Calls that move a key -/

/-- The call presses or releases a key, and is accepted. -/
inductive Call.Moves (k : Nibble) : Call → Bool → Prop
  | press (v : Value) : v.Integral k.val → Moves k (.act (.press v)) true
  | release (v : Value) : v.Integral k.val → Moves k (.act (.release v)) false

/-- The last call that moves a key presses it. -/
def Held (k : Nibble) (calls : List Call) : Prop :=
  ∃ before c after, calls = before ++ c :: after ∧ c.Moves k true ∧
    ∀ c' ∈ after, ∀ down, ¬c'.Moves k down

/-- The level of a key after calls on a machine: the last call that moves it presses it, or no call
moves it and it was down before. -/
def HeldOn (m : Machine) (k : Nibble) (calls : List Call) : Prop :=
  Held k calls ∨ m.state.keyDown k = true ∧ ∀ c ∈ calls, ∀ down, ¬c.Moves k down

variable {k : Nibble} {calls : List Call} {c : Call}

theorem not_held_nil : ¬Held k [] := by
  rintro ⟨before, c, after, h, -, -⟩
  cases before <;> cases h

/-- A call goes one way only. -/
theorem Call.Moves.unique {down up : Bool} (h : c.Moves k down) (h' : c.Moves k up) :
    down = up := by
  cases h with
  | press => cases h'; rfl
  | release => cases h'; rfl

/-- The last call decides if it moves the key, and those before it do if not. -/
theorem held_concat_iff :
    Held k (calls ++ [c]) ↔ c.Moves k true ∨ Held k calls ∧ ∀ down, ¬c.Moves k down := by
  constructor
  · rintro ⟨before, c', after, hsplit, hpress, hafter⟩
    rcases List.eq_nil_or_concat after with rfl | ⟨front, last, rfl⟩
    · obtain ⟨-, hc⟩ := List.append_inj' hsplit rfl
      rw [List.head_eq_of_cons_eq hc]
      exact .inl hpress
    · rw [List.concat_eq_append] at hsplit hafter
      rw [← List.cons_append, ← List.append_assoc] at hsplit
      obtain ⟨hfront, hc⟩ := List.append_inj' hsplit rfl
      rw [List.head_eq_of_cons_eq hc]
      refine .inr ⟨⟨before, c', front, hfront, hpress, fun d hd => ?_⟩, ?_⟩
      · exact hafter d (List.mem_append_left _ hd)
      · exact hafter last (List.mem_append_right _ List.mem_cons_self)
  · rintro (hpress | ⟨⟨before, c', after, hsplit, hpress, hafter⟩, hc⟩)
    · exact ⟨calls, c, [], rfl, hpress, fun d hd => absurd hd List.not_mem_nil⟩
    · refine ⟨before, c', after ++ [c], ?_, hpress, fun d hd => ?_⟩
      · rw [hsplit, List.append_assoc, List.cons_append]
      · rcases List.mem_append.mp hd with hd | hd
        · exact hafter d hd
        · rw [List.mem_singleton.mp hd]
          exact hc

/-- The same for a machine on which the key may have been down before. -/
theorem heldOn_concat_iff (m : Machine) :
    m.HeldOn k (calls ++ [c]) ↔
      c.Moves k true ∨ m.HeldOn k calls ∧ ∀ down, ¬c.Moves k down := by
  have hall : (∀ c' ∈ calls ++ [c], ∀ down, ¬c'.Moves k down) ↔
      (∀ c' ∈ calls, ∀ down, ¬c'.Moves k down) ∧ ∀ down, ¬c.Moves k down := by
    simp only [List.forall_mem_append, List.forall_mem_singleton]
  rw [HeldOn, HeldOn, held_concat_iff, hall, or_and_right, or_assoc, and_assoc]

/-- On a machine with the key up only the calls count. -/
theorem heldOn_iff_held {m : Machine} (h : m.state.keyDown k = false) (calls : List Call) :
    m.HeldOn k calls ↔ Held k calls := by
  rw [HeldOn, h]
  exact or_iff_left fun hup => Bool.false_ne_true hup.1

/-! ### One call -/

/-- The reply to a value that names a key. -/
theorem keyCalls_of_integral (m : Machine) {v : Value} (h : v.Integral k.val) :
    m.keyDown v = ⟨{ m with state := m.state.setKey k true }, .ok (), []⟩ ∧
      m.keyUp v = ⟨{ m with state := m.state.setKey k false }, .ok (), []⟩ ∧
      m.isKeyDown v = ⟨m, .ok (m.state.keyDown k), []⟩ := by
  refine ⟨?_, ?_, ?_⟩
  · rw [keyDown, State.pressKey, m.state.setKeyNamed_of_integral h]
    rfl
  · rw [keyUp, State.releaseKey, m.state.setKeyNamed_of_integral h]
    rfl
  · rw [isKeyDown, m.state.isKeyDown_of_integral h]
    rfl

/-- The reply to a value that names no key. -/
theorem keyCalls_of_not_integral (m : Machine) {v : Value} (h : ∀ k : Nibble, ¬v.Integral k.val) :
    m.keyDown v = ⟨m, .error (Error.invalidKey v).raised, []⟩ ∧
      m.keyUp v = ⟨m, .error (Error.invalidKey v).raised, []⟩ ∧
      m.isKeyDown v = ⟨m, .error (Error.invalidKey v).raised, []⟩ := by
  refine ⟨?_, ?_, ?_⟩
  · rw [keyDown, State.pressKey, m.state.setKeyNamed_of_not_integral h]
    rfl
  · rw [keyUp, State.releaseKey, m.state.setKeyNamed_of_not_integral h]
    rfl
  · rw [isKeyDown, m.state.isKeyDown_of_not_integral h]
    rfl

theorem keyDown_call_of_moves (m : Machine) {down : Bool} (h : c.Moves k down) :
    (m.call c).machine.state.keyDown k = down := by
  cases h with
  | press v hv =>
    show (m.keyDown v).machine.state.keyDown k = true
    rw [(m.keyCalls_of_integral hv).1, State.keyDown_setKey, if_pos rfl]
  | release v hv =>
    show (m.keyUp v).machine.state.keyDown k = false
    rw [(m.keyCalls_of_integral hv).2.1, State.keyDown_setKey, if_pos rfl]

/-- Everything else a host asks for, refused calls included, leaves the level of the key as it
was. -/
theorem keyDown_call_of_not_moves (m : Machine) (h : ∀ down, ¬c.Moves k down) :
    (m.call c).machine.state.keyDown k = m.state.keyDown k := by
  cases c with
  | act a =>
    rw [call, (m.act_state a).1]
    cases a with
    | step => exact m.state.keyDown_steps 1 k
    | load program =>
      obtain ⟨bytes, hload⟩ := m.state.accept_loadProgram program
      rw [State.act, hload]
      rfl
    | press v =>
      exact m.state.keyDown_accept_setKeyNamed (fun hv => h true (.press v hv)) true
    | release v =>
      exact m.state.keyDown_accept_setKeyNamed (fun hv => h false (.release v hv)) false
  | run cycles description =>
    rw [call, run]
    rcases cycles.runLength description with e | n
    · rfl
    · obtain ⟨j, hj⟩ := m.runFrom_follow .ok n
      show (m.runFrom .ok n).machine.state.keyDown k = _
      rw [hj, State.keyDown_steps]
  | isKeyDown v | pixelAt x y | readByte address => rfl

/-! ### Any calls -/

/-- The last call that moves the key decides, and the level before if there is none. -/
theorem keyDown_after (m : Machine) (calls : List Call) :
    (m.after calls).state.keyDown k = true ↔ m.HeldOn k calls := by
  induction calls using List.reverseRecOn with
  | nil =>
    have hnone : ∀ c ∈ ([] : List Call), ∀ down, ¬c.Moves k down :=
      fun c hc => absurd hc List.not_mem_nil
    rw [HeldOn, or_iff_right not_held_nil, and_iff_left hnone]
    rfl
  | append_singleton calls c ih =>
    have hlast : m.after (calls ++ [c]) = ((m.after calls).call c).machine := by
      rw [after, List.foldl_append]
      rfl
    rw [hlast, heldOn_concat_iff]
    by_cases hc : ∃ down, c.Moves k down
    · obtain ⟨down, hc⟩ := hc
      rw [keyDown_call_of_moves _ hc]
      constructor
      · intro hdown
        exact .inl (hdown ▸ hc)
      · rintro (hpress | ⟨-, hnone⟩)
        · exact hc.unique hpress
        · exact absurd hc (hnone down)
    · have hnone : ∀ down, ¬c.Moves k down := fun down hd => hc ⟨down, hd⟩
      rw [keyDown_call_of_not_moves _ hnone, ih, or_iff_right (hnone true), and_iff_left hnone]

/-- All keys of a machine that was set up are up. -/
theorem keyDown_ofSetup {setup : Setup} {m : Machine} (h : ofSetup setup = .ok m) (k : Nibble) :
    m.state.keyDown k = false := by
  obtain ⟨⟨key, -, hinitial⟩, -⟩ := ofSetup_eq_ok h
  rw [hinitial]
  exact Vector.getElem_replicate k.isLt

/-- **The keypad follows the host.**  On a machine that has answered any calls, a key is down exactly
if the last accepted call that named it pressed it, or none named it and it was down before the
first; on a machine that was set up none is down before.  A call that presses, releases or reads a
key is accepted exactly for the integers from 0 to 15 that are not truth values; every other value is
refused and nothing changes, with an error that carries the value if that has a text.  In each cycle
that follows, also in the midst of a run, `EX9E` skips and `EXA1` does not if the key named by the low
nibble of `VX` is held, and the other way round if it is not. -/
theorem keypad_follows_host (m₀ m : Machine) (calls : List Call) (hm : m = m₀.after calls) :
    (∀ setup, ofSetup setup = .ok m₀ → ∀ k, m₀.HeldOn k calls ↔ Held k calls) ∧
      (∀ (v : Value) (k : Nibble), v.Integral k.val →
        m.keyDown v = ⟨{ m with state := m.state.setKey k true }, .ok (), []⟩ ∧
          m.keyUp v = ⟨{ m with state := m.state.setKey k false }, .ok (), []⟩ ∧
          ∃ b, m.isKeyDown v = ⟨m, .ok b, []⟩ ∧ (b = true ↔ m₀.HeldOn k calls)) ∧
      (∀ v : Value, (∀ k : Nibble, ¬v.Integral k.val) →
        ∃ e, m.keyDown v = ⟨m, .error e, []⟩ ∧ m.keyUp v = ⟨m, .error e, []⟩ ∧
          m.isKeyDown v = ⟨m, .error e, []⟩ ∧
          (v.isWritable = true → e = .invalidKey v) ∧
          (v.isWritable = false → e = .tooManyDigits)) ∧
      (∀ (n : Nat) (s : State) (k : Nibble), s = m.state.follow (List.replicate n .step) →
        s.halted = false → s.pc.toNat ≤ 0xFFE → k.val = (s.register s.word.x).toNat % 16 →
        (s.word &&& 0xF0FF = 0xE09E → s.SkipsIf (m₀.HeldOn k calls)) ∧
          (s.word &&& 0xF0FF = 0xE0A1 → s.SkipsIf ¬m₀.HeldOn k calls)) := by
  have hlevel (k : Nibble) : m.state.keyDown k = true ↔ m₀.HeldOn k calls := by
    rw [hm]
    exact m₀.keyDown_after calls
  refine ⟨fun setup h k => heldOn_iff_held (keyDown_ofSetup h k) calls, fun v k hv => ?_,
    fun v hv => ?_, fun n s k hsteps hs hp hk => ⟨fun hw => ?_, fun hw => ?_⟩⟩
  · obtain ⟨hdown, hup, hread⟩ := m.keyCalls_of_integral hv
    exact ⟨hdown, hup, _, hread, hlevel k⟩
  · obtain ⟨hdown, hup, hread⟩ := m.keyCalls_of_not_integral hv
    exact ⟨_, hdown, hup, hread, v.invalidKey_raised⟩
  · have hskip := State.skipsIf_keyDown hs hp hk hw
    rw [hsteps, State.keyDown_steps, hlevel, ← hsteps] at hskip
    exact hskip
  · have hskip := State.skipsIf_keyUp hs hp hk hw
    rw [hsteps, State.keyDown_steps, ← Bool.not_eq_true, hlevel, ← hsteps] at hskip
    exact hskip

/-- An array that is the integer 3 is pressed; a truth value and the integer 16 name no key; then
`6013` and `E09E` are loaded, and the first of them is executed. -/
def pressThree : List State.Action :=
  [.press (.array (.signed 32) (.int 3)), .press (.bool true), .release (.int 16),
    .load (.buffer .fixed [0x60, 0x13, 0xE0, 0x9E]), .step]

theorem held_pressThree : Held 3 (pressThree.map .act) := by
  refine ⟨[], _, _, rfl, .press _ (.scalar (.signed 32) 3 rfl), fun c hc down hmoves => ?_⟩
  cases hmoves with
  | press v hv =>
    -- the truth value is the only other value that is pressed
    have hbool : v = .bool true := by simpa using hc
    rw [hbool] at hv
    cases hv
  | release v hv =>
    have hsixteen : v = .int 16 := by simpa using hc
    rw [hsixteen] at hv
    cases hv

/-- A machine with one listener that has answered these calls. -/
def threeHeld : Machine :=
  (watched (State.initial ⟨0, 0⟩)).after (pressThree.map .act)

/-- With `13` in `V0` the skip goes by key 3. -/
theorem keypad_follows_host_threeHeld :
    ofSetup { observers := [.listener] } = .ok (watched (State.initial ⟨0, 0⟩)) ∧
      threeHeld.isKeyDown (.int 3) = ⟨threeHeld, .ok true, []⟩ ∧
      threeHeld.keyUp (.text "3") = ⟨threeHeld, .error (.invalidKey (.text "3")), []⟩ ∧
      threeHeld.state.step.pc.toNat = 0x206 := by
  have hstate : threeHeld.state = (State.initial ⟨0, 0⟩).follow pressThree :=
    (after_act (watched (State.initial ⟨0, 0⟩)) pressThree).1
  obtain ⟨hs, hp, hw, hv⟩ : threeHeld.state.halted = false ∧ threeHeld.state.pc.toNat = 0x202 ∧
      threeHeld.state.word = 0xE09E ∧ (threeHeld.state.register 0).toNat = 0x13 := by
    rw [hstate]
    decide +kernel
  obtain ⟨hfresh, hkeys, hothers, hskips⟩ :=
    keypad_follows_host (watched (State.initial ⟨0, 0⟩)) threeHeld (pressThree.map .act) rfl
  have hheld : (watched (State.initial ⟨0, 0⟩)).HeldOn 3 (pressThree.map .act) :=
    (hfresh { observers := [.listener] } rfl 3).mpr held_pressThree
  refine ⟨rfl, ?_, ?_, ?_⟩
  · obtain ⟨-, -, b, hread, hb⟩ := hkeys (.int 3) 3 (.plain 3)
    rw [hread, hb.mpr hheld]
  · obtain ⟨e, -, hup, -, hcarries, -⟩ := hothers (.text "3") fun k hk => by cases hk
    rw [hup, hcarries rfl]
  · have hx : threeHeld.state.word.x = 0 := by
      rw [hw]
      decide
    have hk : (3 : Nibble).val = (threeHeld.state.register threeHeld.state.word.x).toNat % 16 := by
      rw [hx, hv]
      rfl
    have hskip := (hskips 0 threeHeld.state 3 rfl hs (by omega) hk).1 (by rw [hw]; decide)
    rw [hskip.skip hheld, hp]

/-- A machine on which the host has put key 3 down in place of pressing it. -/
def putDown : Machine :=
  watched { State.initial ⟨0, 0⟩ with keypad := Vector.ofFn fun k => k.val == 3 }

/-- Key 3 can be down though no call has pressed it, and a number that is too long to be written is
refused for another cause than that it names no key. -/
theorem keyDown_without_press :
    ¬Held 3 [] ∧ putDown.isKeyDown (.int 3) = ⟨putDown, .ok true, []⟩ ∧
      (∀ k : Nibble, ¬(Value.int writableBound).Integral k.val) ∧
      ∃ e, putDown.keyDown (.int writableBound) = ⟨putDown, .error e, []⟩ ∧ e.name? = none := by
  have hlong : (Value.int writableBound).isWritable = false :=
    decide_eq_false (Nat.lt_irrefl writableBound)
  have hnot : ∀ k : Nibble, ¬(Value.int writableBound).Integral k.val := by
    intro k hk
    have hbound : 15 < writableBound := by decide +kernel
    have heq : (writableBound : Int) = k.val := Option.some.inj ((Value.integral_iff _ _).mp hk).2
    omega
  have hthree : (Value.int 3).Integral (3 : Nibble).val := .plain 3
  refine ⟨not_held_nil, ?_, hnot, .tooManyDigits, ?_, rfl⟩
  · rw [(putDown.keyCalls_of_integral hthree).2.2]
    rfl
  · rw [(putDown.keyCalls_of_not_integral hnot).1, (Value.invalidKey_raised _).2 hlong]

end Machine

end Chip8
