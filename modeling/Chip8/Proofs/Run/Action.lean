import Chip8.Host.Access
import Chip8.Host.Key
import Chip8.Proofs.Cycle.Outcome
import Chip8.Proofs.Execution.Edit

/-!
Runs.  A host drives a state by actions: it runs a cycle, loads a program, presses or releases a
key.  `State.follow` carries out a list of them, and `State.Reachable` is the set of states that
can arise, with whole runs of cycles as a further way to go on.

A run of cycles is the same number of single steps (`run_eq_follow`), so reachable states are
exactly those at the end of a list of actions (`reachable_iff`).  Actions other than a step touch
nothing but memory and keypad (`act_eq_of_ne_step`).

`State.loaded` is the state with a program ready to run, and `step_loaded` its first step.
-/

namespace Chip8.State

/-- What a host does to a state. -/
inductive Action
  /-- Run one cycle. -/
  | step
  /-- Load the program a value stands for. -/
  | load (program : Host.Value)
  /-- Press the key a value names. -/
  | press (key : Host.Value)
  /-- Release the key a value names. -/
  | release (key : Host.Value)

/-- The state after a call that may be refused.  A refusal leaves the state as it is. -/
def accept (s : State) : Except Error State → State
  | .ok t => t
  | .error _ => s

/-- The state after an action. -/
def act (s : State) : Action → State
  | .step => s.step
  | .load program => s.accept (s.loadProgram program)
  | .press key => s.accept (s.pressKey key)
  | .release key => s.accept (s.releaseKey key)

theorem act_step (s : State) : s.act .step = s.step := rfl

/-- The state after a list of actions, the first one first. -/
def follow (s : State) (actions : List Action) : State :=
  actions.foldl act s

theorem follow_nil (s : State) : s.follow [] = s := rfl

theorem follow_append (s : State) (before after : List Action) :
    s.follow (before ++ after) = (s.follow before).follow after :=
  List.foldl_append

theorem follow_concat (s : State) (before : List Action) (a : Action) :
    s.follow (before ++ [a]) = (s.follow before).act a :=
  s.follow_append before [a]

/-- What every action keeps, a list of actions keeps. -/
theorem follow_induct {p : State → Prop} (hact : ∀ s a, p s → p (s.act a)) {s : State} (hs : p s)
    (actions : List Action) : p (s.follow actions) := by
  induction actions generalizing s with
  | nil => exact hs
  | cons a rest ih => exact ih (hact s a hs)

/-! ### Actions other than a step -/

theorem accept_setKeyNamed (s : State) (key : Host.Value) (down : Bool) :
    ∃ keypad, s.accept (s.setKeyNamed key down) = { s with keypad := keypad } := by
  rw [setKeyNamed]
  rcases key.key with e | k
  · exact ⟨s.keypad, rfl⟩
  · exact ⟨s.keypad.set k.val down, rfl⟩

/-- A program is stored from `0x200` on; one that is refused is as good as an empty one. -/
theorem accept_loadProgram (s : State) (program : Host.Value) :
    ∃ bytes, s.accept (s.loadProgram program) =
      { s with memory := s.memory.writeAll Memory.programStart bytes } := by
  rw [loadProgram]
  rcases program.programBytes with e | bytes
  · exact ⟨[], rfl⟩
  · show ∃ stored, s.accept (do
      let memory ← s.memory.loadProgram bytes
      .ok { s with memory := memory }) = { s with memory := s.memory.writeAll _ stored }
    rw [Memory.loadProgram]
    split
    · exact ⟨bytes, rfl⟩
    · exact ⟨[], rfl⟩

/-- Only a step reaches beyond memory and keypad. -/
theorem act_eq_of_ne_step (s : State) {a : Action} (h : a ≠ .step) :
    ∃ memory keypad, s.act a = { s with memory := memory, keypad := keypad } := by
  cases a with
  | step => exact absurd rfl h
  | load program =>
    obtain ⟨bytes, hm⟩ := s.accept_loadProgram program
    exact ⟨_, s.keypad, hm⟩
  | press key =>
    obtain ⟨keypad, hk⟩ := s.accept_setKeyNamed key true
    exact ⟨s.memory, keypad, hk⟩
  | release key =>
    obtain ⟨keypad, hk⟩ := s.accept_setKeyNamed key false
    exact ⟨s.memory, keypad, hk⟩

/-- An action does not end a halt. -/
theorem halted_of_act {s : State} {a : Action} (h : (s.act a).halted = false) :
    s.halted = false := by
  by_cases ha : a = .step
  · rw [ha] at h
    exact halted_of_step h
  · obtain ⟨memory, keypad, he⟩ := s.act_eq_of_ne_step ha
    rw [he] at h
    exact h

theorem halted_of_follow {s : State} {actions : List Action}
    (h : (s.follow actions).halted = false) : s.halted = false := by
  induction actions generalizing s with
  | nil => exact h
  | cons a rest ih => exact halted_of_act (ih h)

/-! ### Reachable states -/

/-- The states that arise from the initial state of a random key by actions and runs of cycles. -/
inductive Reachable (rng : Key) : State → Prop
  | initial : Reachable rng (State.initial rng)
  | act {s : State} (a : Action) : Reachable rng s → Reachable rng (s.act a)
  | run {s : State} (n : Nat) : Reachable rng s → Reachable rng (s.run n).1

/-- A run of cycles is that many steps in a row. -/
theorem run_eq_follow (s : State) (n : Nat) :
    (s.run n).1 = s.follow (List.replicate n .step) := by
  induction n generalizing s with
  | zero => rfl
  | succ n ih => exact ih s.step

/-- Runs of cycles add nothing: every reachable state lies at the end of a list of actions. -/
theorem reachable_iff (rng : Key) (s : State) :
    Reachable rng s ↔ ∃ actions, s = (State.initial rng).follow actions := by
  constructor
  · intro h
    induction h with
    | initial => exact ⟨[], rfl⟩
    | act a _ ih =>
      obtain ⟨actions, rfl⟩ := ih
      exact ⟨actions ++ [a], (follow_concat _ _ _).symm⟩
    | run n _ ih =>
      obtain ⟨actions, rfl⟩ := ih
      -- the run is spelled out step by step behind what came before
      refine ⟨actions ++ List.replicate n .step, ?_⟩
      rw [run_eq_follow, follow_append]
  · rintro ⟨actions, rfl⟩
    exact follow_induct (fun _ a hs => Reachable.act a hs) .initial actions

/-- What holds of the initial state and is kept by every action holds of every reachable state. -/
theorem Reachable.induct {rng : Key} {s : State} (h : Reachable rng s) {p : State → Prop}
    (hinitial : p (State.initial rng)) (hact : ∀ s a, p s → p (s.act a)) : p s := by
  obtain ⟨actions, rfl⟩ := (reachable_iff rng s).mp h
  exact follow_induct hact hinitial actions

/-! ### A program just loaded -/

/-- The initial state with a program loaded. -/
def loaded (program : List UInt8) : State :=
  (State.initial ⟨0, 0⟩).act (.load (.buffer .fixed program))

theorem loaded_eq (program : List UInt8) (h : program.length ≤ 0xE00) :
    loaded program =
      { State.initial ⟨0, 0⟩ with memory := Memory.initial.writeAll 0x200 program } := by
  have hm : Memory.initial.loadProgram program = .ok (Memory.initial.writeAll 0x200 program) :=
    if_pos h
  show (State.initial ⟨0, 0⟩).accept (do
    let memory ← Memory.initial.loadProgram program
    .ok { State.initial ⟨0, 0⟩ with memory := memory }) = _
  rw [hm]
  rfl

/-- The first step of a program executes the word its first two bytes spell. -/
theorem step_loaded {program : List UInt8} (hlow : 1 < program.length)
    (hhigh : program.length ≤ 0xE00) {i : Instruction}
    (hi : Instruction.ofWord (Memory.joinBytes program[0] program[1]) = i)
    (hf : (State.initial ⟨0, 0⟩).fault? i = none) :
    (loaded program).step = ((loaded program).begun.perform i).tickTimers ∧
      (loaded program).step.halted = false := by
  have hp : (0x200 : UInt16).toNat ≤ 0xFFE := by decide
  -- the test for faults does not see the program
  have hfault := (fault?_edit (State.initial ⟨0, 0⟩)
    { memory := fun _ => Memory.initial.writeAll 0x200 program } i).trans hf
  rw [loaded_eq program hhigh]
  refine step_eq_perform rfl hp ?_ hfault
  rw [word_writeAll (a := 0x200) (i := 0) rfl rfl hlow (by decide)]
  exact hi

end Chip8.State
