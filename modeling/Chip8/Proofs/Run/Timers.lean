import Chip8.Proofs.Cycle.Footprint
import Chip8.Proofs.Run.Action

/-!
The two timers over a run.  `State.cycles` lists the cycles that the actions of a run carry out,
each with the word executed and the value `VX` it started from; a cycle that is refused or ends with
a fault is not carried out (`cycleBy?_step_eq_none_iff`), while one that waits for a key or passes
over an unknown word is (`cycleBy?_step_of_waits`).

* `value_step` — a cycle carried out sets the timer if its word is of the timer's form, and
  then counts down by one.
* `value_follow` — so after any actions the timer is what `countdown` makes of the cycles.

Main result: `timers_count_down`.  The value depends on the last cycle that set the timer and on the
number of cycles since, and on nothing else that the actions do.
-/

namespace Chip8

/-- A cycle that was carried out. -/
structure Cycle where
  /-- The word executed. -/
  word : Word
  /-- The register that the word names as `X`, before the cycle. -/
  vx : UInt8
  deriving DecidableEq, Repr

/-- One of the two timers. -/
inductive Timer
  | delay
  | sound
  deriving DecidableEq, Repr

namespace Timer

/-- The form of the words that set a timer: `FX15` and `FX18`. -/
def form : Timer → Word
  | delay => 0xF015
  | sound => 0xF018

/-- The value of a timer. -/
def value : Timer → State → UInt8
  | delay => State.delayTimer
  | sound => State.soundTimer

end Timer

/-- The cycle sets the timer. -/
def Cycle.Sets (c : Cycle) (timer : Timer) : Prop :=
  c.word &&& 0xF0FF = timer.form

instance (c : Cycle) (timer : Timer) : Decidable (c.Sets timer) := by
  unfold Cycle.Sets
  infer_instance

/-! ### Counting down -/

/-- A timer after a list of cycles, oldest first: each of them may set it, and takes one off. -/
def countdown (timer : Timer) (start : Nat) (cycles : List Cycle) : Nat :=
  cycles.foldl (fun t c => (if c.Sets timer then c.vx.toNat else t) - 1) start

/-- What a list of cycles makes of a timer. -/
structure CountsDown (timer : Timer) (start last : Nat) (cycles : List Cycle) : Prop where
  /-- Without a cycle that sets the timer, one is taken off for each cycle. -/
  unset : (∀ c ∈ cycles, ¬c.Sets timer) → last = start - cycles.length
  /-- Otherwise the last such cycle counts, and what came before it does not. -/
  set : ∀ before c after, cycles = before ++ c :: after → c.Sets timer →
    (∀ c' ∈ after, ¬c'.Sets timer) → last = c.vx.toNat - (after.length + 1)

theorem countdown_append (timer : Timer) (start : Nat) (before after : List Cycle) :
    countdown timer start (before ++ after) =
      countdown timer (countdown timer start before) after :=
  List.foldl_append

theorem countdown_of_unset {timer : Timer} {cycles : List Cycle}
    (h : ∀ c ∈ cycles, ¬c.Sets timer) (start : Nat) :
    countdown timer start cycles = start - cycles.length := by
  induction cycles generalizing start with
  | nil => rfl
  | cons c rest ih =>
    have hc : ¬c.Sets timer := h c List.mem_cons_self
    have hrest : ∀ c' ∈ rest, ¬c'.Sets timer := fun c' hc' => h c' (List.mem_cons_of_mem c hc')
    show countdown timer ((if c.Sets timer then c.vx.toNat else start) - 1) rest = _
    rw [if_neg hc, ih hrest, List.length_cons]
    omega

theorem countsDown_countdown (timer : Timer) (start : Nat) (cycles : List Cycle) :
    CountsDown timer start (countdown timer start cycles) cycles where
  unset h := countdown_of_unset h start
  set before c after hsplit hc hafter := by
    -- whatever the cycles before have left, `c` replaces it
    have hset : countdown timer (countdown timer start before) (c :: after) =
        countdown timer (c.vx.toNat - 1) after := by
      show countdown timer ((if c.Sets timer then c.vx.toNat else _) - 1) after = _
      rw [if_pos hc]
    rw [hsplit, countdown_append, hset, countdown_of_unset hafter]
    omega

namespace State

/-! ### Cycles carried out -/

/-- The action runs a cycle. -/
def Action.isStep : Action → Bool
  | .step => true
  | _ => false

/-- The cycle to carry out next. -/
def nextCycle (s : State) : Cycle :=
  ⟨s.word, s.register s.word.x⟩

/-- The cycle an action carries out. -/
def cycleBy? (s : State) : Action → Option Cycle
  | .step => if s.step.halted then none else some s.nextCycle
  | _ => none

/-- The cycles a list of actions carries out, oldest first. -/
def cycles (s : State) : List Action → List Cycle
  | [] => []
  | a :: rest => (s.cycleBy? a).toList ++ (s.act a).cycles rest

variable {s : State}

theorem cycleBy?_of_ne_step {a : Action} (h : a ≠ .step) : s.cycleBy? a = none := by
  cases a with
  | step => exact absurd rfl h
  | _ => rfl

theorem cycleBy?_step_of_halted (h : s.step.halted = true) : s.cycleBy? .step = none :=
  if_pos h

theorem cycleBy?_step_of_not_halted (h : s.step.halted = false) :
    s.cycleBy? .step = some s.nextCycle :=
  if_neg (by rw [h]; exact Bool.false_ne_true)

/-- A cycle is not carried out exactly if it is refused or ends with a fault. -/
theorem cycleBy?_step_eq_none_iff (s : State) :
    s.cycleBy? .step = none ↔ s.halted = true ∨ ∃ f, s.Stops f := by
  cases s.step_view with
  | halted hs ht =>
    have hh : s.step.halted = true := by
      rw [ht]
      exact hs
    exact iff_of_true (cycleBy?_step_of_halted hh) (.inl hs)
  | faulted f hs hf ht =>
    have hh : s.step.halted = true := by
      rw [ht]
      exact f.isFatal_status
    exact iff_of_true (cycleBy?_step_of_halted hh) (.inr ⟨f, hf⟩)
  | executed hs hf hp ht hh =>
    rw [cycleBy?_step_of_not_halted hh]
    refine iff_of_false (fun h => by cases h) ?_
    rintro (h | ⟨f, h⟩)
    · rw [hs] at h
      cases h
    · exact hf f h

/-- A cycle that waits for a key is carried out, and so is one that meets a word of no kind. -/
theorem cycleBy?_step_of_waits (hs : s.halted = false) (hp : s.pc.toNat ≤ 0xFFE)
    (h : s.Waits ∨ s.Unknown) : s.cycleBy? .step = some s.nextCycle := by
  have hf : s.fault? (Instruction.ofWord s.word) = none := by
    rcases h with h | h
    · have ho := (s.waits_iff.mp h).1
      simp only [Instruction.ofWord, ho]
      exact fault?_of_no_access (by simp) (by simp) rfl
    · have ho := s.unknown_iff.mp h
      simp only [Instruction.ofWord, ho]
      exact fault?_of_no_access (by simp) (by simp) rfl
  exact cycleBy?_step_of_not_halted (step_eq_perform hs hp rfl hf).2

/-- As long as the machine is not halted, every cycle is carried out. -/
theorem length_cycles {actions : List Action} (h : (s.follow actions).halted = false) :
    (s.cycles actions).length = actions.countP Action.isStep := by
  induction actions generalizing s with
  | nil => rfl
  | cons a rest ih =>
    have hrest : ((s.act a).follow rest).halted = false := h
    rw [cycles, List.length_append, ih hrest, List.countP_cons, Nat.add_comm]
    cases a with
    | step =>
      rw [cycleBy?_step_of_not_halted (halted_of_follow hrest)]
      rfl
    | _ => rfl

/-! ### The timers -/

/-- A cycle carried out may set the timer, and takes one off. -/
theorem value_step (h : s.step.halted = false) (timer : Timer) :
    (timer.value s.step).toNat = countdown timer (timer.value s).toNat [s.nextCycle] := by
  have hvalue : timer.value (s.begun.perform (Instruction.ofWord s.word)) =
      if s.nextCycle.Sets timer then s.register s.word.x else timer.value s := by
    -- `begun` has the registers and the timers of `s`
    cases timer with
    | delay => exact s.begun.delayTimer_perform_ofWord s.word
    | sound => exact s.begun.soundTimer_perform_ofWord s.word
  have htick : timer.value s.step =
      tick (timer.value (s.begun.perform (Instruction.ofWord s.word))) := by
    rw [(step_executed (halted_of_step h) h).2]
    cases timer with
    | delay => rfl
    | sound => rfl
  rw [htick, toNat_tick, hvalue, apply_ite UInt8.toNat]
  rfl

/-- A cycle that is not carried out leaves the timers as they were. -/
theorem value_step_of_halted (h : s.step.halted = true) (timer : Timer) :
    timer.value s.step = timer.value s := by
  cases s.step_view with
  | halted hs ht => rw [ht]
  | faulted f hs hf ht =>
    rw [ht]
    cases timer with
    | delay => rfl
    | sound => rfl
  | executed hs hf hp ht hh =>
    rw [h] at hh
    cases hh

/-- Over one action, a timer counts down by the cycle carried out, if any. -/
theorem value_act (s : State) (a : Action) (timer : Timer) :
    (timer.value (s.act a)).toNat =
      countdown timer (timer.value s).toNat (s.cycleBy? a).toList := by
  by_cases ha : a = .step
  · rw [ha, act_step]
    rcases hh : s.step.halted with - | -
    · rw [cycleBy?_step_of_not_halted hh]
      exact value_step hh timer
    · rw [cycleBy?_step_of_halted hh, value_step_of_halted hh]
      rfl
  · obtain ⟨memory, keypad, he⟩ := s.act_eq_of_ne_step ha
    rw [cycleBy?_of_ne_step ha, he]
    cases timer with
    | delay => rfl
    | sound => rfl

/-- Over any actions, a timer counts down by the cycles they carry out. -/
theorem value_follow (s : State) (actions : List Action) (timer : Timer) :
    (timer.value (s.follow actions)).toNat =
      countdown timer (timer.value s).toNat (s.cycles actions) := by
  induction actions generalizing s with
  | nil => rfl
  | cons a rest ih =>
    rw [cycles, countdown_append, ← value_act]
    exact ih (s.act a)

/-- `FX07` is carried out, and stores the delay timer as it was before the cycle. -/
theorem register_step_of_getDelayTimer (hs : s.halted = false) (hp : s.pc.toNat ≤ 0xFFE)
    (hw : s.word &&& 0xF0FF = 0xF007) :
    s.step.halted = false ∧ s.step.register s.word.x = s.delayTimer := by
  have ho : Opcode.ofWord s.word = .getDelayTimer := (Opcode.ofWord_eq_iff (by decide) _).mpr hw
  have hi : Instruction.ofWord s.word = .getDelayTimer s.word.x := by
    simp only [Instruction.ofWord, ho]
  obtain ⟨he, hh⟩ := step_eq_perform hs hp hi (fault?_of_no_access (by simp) (by simp) rfl)
  refine ⟨hh, ?_⟩
  rw [he]
  show (s.begun.setRegister s.word.x s.delayTimer).register s.word.x = s.delayTimer
  rw [register_setRegister, if_pos rfl]

/-- **Timers over a run.**  After any actions, each timer is its first value less the number of
cycles carried out, or, if one of them set the timer, the value that the last one set less the
number of cycles from it on, and never below zero.  Refused cycles and faults are not carried out;
all other cycles are, those that wait and those that meet an unknown word among them, so that of a
machine that is not halted at the end every cycle counts.  `FX07` reads the delay timer before its
own cycle takes one off. -/
theorem timers_count_down (s : State) (actions : List Action) :
    (∀ timer : Timer, CountsDown timer (timer.value s).toNat
        (timer.value (s.follow actions)).toNat (s.cycles actions)) ∧
      ((s.follow actions).halted = false →
        (s.cycles actions).length = actions.countP Action.isStep) ∧
      (∀ t : State, t.cycleBy? .step = none ↔ t.halted = true ∨ ∃ f, t.Stops f) ∧
      (∀ t : State, t.halted = false → t.pc.toNat ≤ 0xFFE → t.Waits ∨ t.Unknown →
        t.cycleBy? .step = some t.nextCycle) ∧
      (∀ t : State, t.halted = false → t.pc.toNat ≤ 0xFFE → t.word &&& 0xF0FF = 0xF007 →
        t.step.halted = false ∧ t.step.register t.word.x = t.delayTimer) := by
  refine ⟨fun timer => ?_, length_cycles, cycleBy?_step_eq_none_iff,
    fun t hs hp => cycleBy?_step_of_waits hs hp,
    fun t hs hp => register_step_of_getDelayTimer hs hp⟩
  rw [value_follow]
  exact countsDown_countdown timer _ _

/-- `6009`, `F015`, `F20A` and `F107`, with the sound timer at three. -/
def timedWait : State :=
  { loaded [0x60, 0x09, 0xF0, 0x15, 0xF2, 0x0A, 0xF1, 0x07] with soundTimer := 3 }

/-- Two cycles wait for a key, and the cycle after it is pressed goes on. -/
def waitActions : List Action :=
  [.step, .step, .step, .step, .press (.int 3), .step, .step]

theorem cycles_timedWait :
    timedWait.cycles waitActions =
      [⟨0x6009, 0⟩, ⟨0xF015, 9⟩, ⟨0xF20A, 0⟩, ⟨0xF20A, 0⟩, ⟨0xF20A, 0⟩, ⟨0xF107, 0⟩] := by
  decide +kernel

/-- The delay timer has lost five of the nine that the second cycle set, and the sound timer has run
out. -/
theorem timers_count_down_timedWait :
    (timedWait.cycles waitActions).length = 6 ∧
      (Timer.delay.value (timedWait.follow waitActions)).toNat = 4 ∧
      (Timer.sound.value (timedWait.follow waitActions)).toNat = 0 := by
  obtain ⟨hlaw, -, -, -, -⟩ := timers_count_down timedWait waitActions
  rw [cycles_timedWait] at hlaw ⊢
  refine ⟨rfl, ?_, ?_⟩
  · exact (hlaw .delay).set [⟨0x6009, 0⟩] ⟨0xF015, 9⟩ _ rfl (by decide) (by decide)
  · exact (hlaw .sound).unset (by decide)

end State

end Chip8
