import Chip8.Proofs.Cycle.Footprint
import Chip8.Proofs.Machine.Call

/-!
Random numbers over a run.  A key fixes a stream of keys, each of them the first half of the one
before, and the second halves yield one byte each: `Key.stream` and `Key.sample`.  A `CXNN` that is
executed draws the next byte, and nothing else reads the stream or moves it:

* `State.sampleBy?` is the sample an action takes, with the register, the mask and the byte stored;
* `rng_act` — the key moves on by one place at a sample and stays where it is otherwise;
* `rng_follow` — after any actions the key has moved on by as many places as there were samples.

Main result: `random_stream`.  The byte stored by a sample is that of the stream at the number of
samples taken before, masked, so two runs from one key draw the same bytes whatever they execute.
-/

namespace Chip8

namespace Key

/-- The key after a number of draws. -/
def stream (k : Key) : Nat → Key
  | 0 => k
  | i + 1 => (k.stream i).split.1

/-- The byte drawn after a number of draws. -/
def sample (k : Key) (i : Nat) : UInt8 :=
  (k.stream i).split.2.byte

theorem draw_stream (k : Key) (i : Nat) : (k.stream i).draw = (k.sample i, k.stream (i + 1)) := rfl

end Key

namespace State

/-! ### Samples -/

/-- A `CXNN` that was executed. -/
structure Sample where
  /-- The register it names. -/
  x : Nibble
  /-- The byte it masks with. -/
  mask : UInt8
  /-- The byte it has left in the register. -/
  stored : UInt8

/-- The next step executes `CXNN`. -/
def Samples (s : State) : Prop :=
  s.halted = false ∧ s.pc.toNat ≤ 0xFFE ∧ s.word &&& 0xF000 = 0xC000

instance (s : State) : Decidable s.Samples := by
  unfold Samples
  infer_instance

/-- The sample an action takes. -/
def sampleBy? (s : State) : Action → Option Sample
  | .step => if s.Samples then some ⟨s.word.x, s.word.nn, s.step.register s.word.x⟩ else none
  | _ => none

/-- The samples a list of actions takes, oldest first. -/
def samples (s : State) : List Action → List Sample
  | [] => []
  | a :: rest => (s.sampleBy? a).toList ++ (s.act a).samples rest

theorem samples_append (s : State) (before after : List Action) :
    s.samples (before ++ after) = s.samples before ++ (s.follow before).samples after := by
  induction before generalizing s with
  | nil => rfl
  | cons a rest ih =>
    rw [List.cons_append, samples, samples, ih, List.append_assoc]
    rfl

variable {s : State}

/-! ### One action -/

/-- `CXNN` cannot fault, and ends normally. -/
theorem step_of_samples (h : s.Samples) :
    s.step = (s.begun.perform (.random s.word.x s.word.nn)).tickTimers ∧
      s.step.status = .ok := by
  obtain ⟨hs, hp, hw⟩ := h
  have hi : Instruction.ofWord s.word = .random s.word.x s.word.nn := by
    have ho : Opcode.ofWord s.word = .random := (Opcode.ofWord_eq_iff (by decide) _).mpr hw
    simp only [Instruction.ofWord, ho]
  have he := (step_eq_perform hs hp hi (fault?_of_no_access (by simp) (by simp) rfl)).1
  refine ⟨he, ?_⟩
  rw [he]
  exact perform_status s.begun (.random s.word.x s.word.nn)

/-- A sample takes its byte from the key and leaves the key for the next one. -/
theorem effect_of_samples (h : s.Samples) :
    s.step.register s.word.x = s.rng.draw.1 &&& s.word.nn ∧ s.step.rng = s.rng.draw.2 := by
  rw [(step_of_samples h).1]
  refine ⟨?_, rfl⟩
  show (s.begun.setRegister s.word.x (s.rng.draw.1 &&& s.word.nn)).register s.word.x = _
  rw [register_setRegister, if_pos rfl]

/-- Any other step leaves the key as it was: a refused one, a fault, and every other word. -/
theorem rng_step_of_not_samples (h : ¬s.Samples) : s.step.rng = s.rng := by
  cases s.step_view with
  | halted hs ht => rw [ht]
  | faulted f hs hf ht => rw [ht]
  | executed hs hf hp ht hh =>
    have hw : s.word &&& 0xF000 ≠ 0xC000 := fun hw => h ⟨hs, hp, hw⟩
    rw [ht]
    exact rng_perform_ofWord s.begun s.word hw

theorem sampleBy?_step : s.sampleBy? .step =
    if s.Samples then some ⟨s.word.x, s.word.nn, s.step.register s.word.x⟩ else none := rfl

theorem sampleBy?_of_ne_step {a : Action} (h : a ≠ .step) : s.sampleBy? a = none := by
  cases a with
  | step => exact absurd rfl h
  | _ => rfl

/-- Only samples move the key. -/
theorem rng_act (s : State) (a : Action) :
    (s.act a).rng = if (s.sampleBy? a).isSome then s.rng.draw.2 else s.rng := by
  by_cases ha : a = .step
  · rw [ha, act_step, sampleBy?_step]
    by_cases hd : s.Samples
    · rw [if_pos hd, (effect_of_samples hd).2]
      rfl
    · rw [if_neg hd, rng_step_of_not_samples hd]
      rfl
  · obtain ⟨memory, keypad, he⟩ := s.act_eq_of_ne_step ha
    rw [sampleBy?_of_ne_step ha, he]
    rfl

/-- A sample stores what the key yields, masked. -/
theorem stored_of_sampleBy? {a : Action} {d : Sample} (h : s.sampleBy? a = some d) :
    d.stored = s.rng.draw.1 &&& d.mask := by
  by_cases ha : a = .step
  · rw [ha, sampleBy?_step] at h
    by_cases hd : s.Samples
    · rw [if_pos hd] at h
      rw [← Option.some.inj h]
      exact (effect_of_samples hd).1
    · rw [if_neg hd] at h
      cases h
  · rw [sampleBy?_of_ne_step ha] at h
    cases h

/-! ### Runs -/

/-- The key has moved on by one place for each sample. -/
theorem rng_follow {key : Key} {n : Nat} (h : s.rng = key.stream n) (actions : List Action) :
    (s.follow actions).rng = key.stream (n + (s.samples actions).length) := by
  -- the place in the stream grows by what the first action takes
  induction actions generalizing s n with
  | nil => exact h
  | cons a rest ih =>
    have hact := s.rng_act a
    rw [samples, List.length_append, ← Nat.add_assoc]
    cases hd : s.sampleBy? a with
    | none =>
      rw [hd] at hact
      exact ih (hact.trans h)
    | some d =>
      rw [hd, h, Key.draw_stream] at hact
      exact ih hact

/-- Every sample of a run stores the byte of its place in the stream, masked. -/
theorem stored_of_getElem?_samples {key : Key} {n i : Nat} {d : Sample} {actions : List Action}
    (h : s.rng = key.stream n) (hd : (s.samples actions)[i]? = some d) :
    d.stored = key.sample (n + i) &&& d.mask := by
  induction actions generalizing s n i with
  | nil => cases hd
  | cons a rest ih =>
    have hact := s.rng_act a
    rw [samples] at hd
    cases ha : s.sampleBy? a with
    | none =>
      rw [ha] at hd hact
      exact ih (hact.trans h) hd
    | some first =>
      rw [ha] at hd hact
      cases i with
      | zero =>
        have hstored := stored_of_sampleBy? ha
        rw [h, Key.draw_stream] at hstored
        exact Option.some.inj hd ▸ hstored
      | succ i =>
        rw [h, Key.draw_stream] at hact
        have hrest := ih hact hd
        rw [Nat.add_right_comm] at hrest
        exact hrest

/-- Actions that are refused, by the machine or its program, take no sample. -/
theorem sampleBy?_of_refused {strict : Bool} {a : Action} {e : Error}
    (h : s.answer strict a = .error e) : s.sampleBy? a = none := by
  by_cases ha : a = .step
  · rw [ha] at h
    rw [ha, sampleBy?_step]
    refine if_neg fun hd => ?_
    -- a sample ends normally, and then the step is answered
    obtain ⟨he, hok⟩ := step_of_samples hd
    have hh : s.step.halted = false := by
      rw [halted, hok]
      rfl
    rw [answer, outcome_of_executed hh, hok] at h
    cases h
  · exact sampleBy?_of_ne_step ha

/-- **Random numbers over a run.**  After any actions from the initial state of a key, the key is
that of the stream at the number `c` of `CXNN` executed so far.  If the next step executes `CXNN`,
it stores the byte of the stream at `c`, masked, into `VX`, and the key moves on to the next place;
no other action moves it, and neither does one that is refused or a step that does not end normally.
So the bytes that runs from one key draw are the same at every place, whatever they execute. -/
theorem random_stream (key : Key) (actions : List Action) (s : State)
    (hs : s = (State.initial key).follow actions) (c : Nat)
    (hc : c = ((State.initial key).samples actions).length) :
    s.rng = key.stream c ∧
      (s.halted = false → s.pc.toNat ≤ 0xFFE → s.word &&& 0xF000 = 0xC000 →
        s.step.register s.word.x = key.sample c &&& s.word.nn ∧
          s.step.rng = key.stream (c + 1) ∧ s.step.status = .ok ∧
          ((State.initial key).samples (actions ++ [.step])).length = c + 1) ∧
      (∀ a, s.sampleBy? a = none → (s.act a).rng = key.stream c) ∧
      (s.step.status ≠ .ok → s.step.rng = key.stream c) ∧
      (∀ (m : Machine) (a : Action) (e : Error), m.state = s → (m.act a).outcome = .error e →
        (m.act a).machine.state.rng = key.stream c) ∧
      (∀ i d, ((State.initial key).samples actions)[i]? = some d →
        d.stored = key.sample i &&& d.mask) ∧
      ∀ (others : List Action) (i : Nat) (d d' : Sample),
        ((State.initial key).samples actions)[i]? = some d →
        ((State.initial key).samples others)[i]? = some d' →
        d.stored &&& d'.mask = d'.stored &&& d.mask := by
  have hinitial : (State.initial key).rng = key.stream 0 := rfl
  have hrng : s.rng = key.stream c := by
    rw [hs, hc, rng_follow hinitial, Nat.zero_add]
  have hnone {a : Action} (ha : s.sampleBy? a = none) : (s.act a).rng = key.stream c := by
    rw [rng_act, ha, ← hrng]
    rfl
  have hstored {others : List Action} {i : Nat} {d : Sample}
      (hd : ((State.initial key).samples others)[i]? = some d) :
      d.stored = key.sample i &&& d.mask := by
    have h := stored_of_getElem?_samples hinitial hd
    rwa [Nat.zero_add] at h
  refine ⟨hrng, fun h hp hw => ?_, fun a => hnone, fun hok => ?_, fun m a e hm he => ?_,
    fun i d => hstored, fun others i d d' hd hd' => ?_⟩
  · have hd : s.Samples := ⟨h, hp, hw⟩
    have hdraw : s.rng.draw = (key.sample c, key.stream (c + 1)) := by rw [hrng, Key.draw_stream]
    obtain ⟨hregister, hkey⟩ := effect_of_samples hd
    rw [hdraw] at hregister hkey
    refine ⟨hregister, hkey, (step_of_samples hd).2, ?_⟩
    rw [samples_append, List.length_append, ← hc, ← hs, samples, sampleBy?_step, if_pos hd]
    rfl
  · rw [rng_step_of_not_samples fun hd => hok (step_of_samples hd).2]
    exact hrng
  · rw [(m.act_state a).1, hm]
    rw [Machine.act_outcome, hm] at he
    exact hnone (sampleBy?_of_refused he)
  · rw [hstored hd, hstored hd', UInt8.and_assoc, UInt8.and_assoc, UInt8.and_comm d.mask]

/-- The program `CF00 C0FF` after its first step: the sample for `VF` with an empty mask is taken. -/
def drawnOnce : State :=
  (loaded [0xCF, 0x00, 0xC0, 0xFF]).step

theorem samples_loaded : (loaded [0xCF, 0x00, 0xC0, 0xFF]).Samples := by
  rw [Samples, loaded_eq [0xCF, 0x00, 0xC0, 0xFF] (by decide),
    word_writeAll (i := 0) rfl rfl (by decide) (by decide)]
  decide

theorem word_drawnOnce : drawnOnce.word = 0xC0FF := by
  rw [drawnOnce, (step_of_samples samples_loaded).1, loaded_eq [0xCF, 0x00, 0xC0, 0xFF] (by decide),
    word_writeAll (i := 2) rfl rfl (by decide) (by decide)]
  decide

/-- The second word draws the second byte, 36, into `V0`. -/
theorem random_stream_drawnOnce :
    drawnOnce = (State.initial ⟨0, 0⟩).follow
        [.load (.buffer .fixed [0xCF, 0x00, 0xC0, 0xFF]), .step] ∧
      ((State.initial ⟨0, 0⟩).samples
        [.load (.buffer .fixed [0xCF, 0x00, 0xC0, 0xFF]), .step]).length = 1 ∧
      drawnOnce.halted = false ∧ drawnOnce.pc.toNat ≤ 0xFFE ∧
      drawnOnce.word &&& 0xF000 = 0xC000 ∧
      drawnOnce.rng = ⟨1797259609, 2579123966⟩ ∧
      drawnOnce.step.register 0 = 36 ∧ drawnOnce.step.rng = ⟨4165894930, 804218099⟩ := by
  have hfollow : drawnOnce = (State.initial ⟨0, 0⟩).follow
      [.load (.buffer .fixed [0xCF, 0x00, 0xC0, 0xFF]), .step] := by
    rw [follow, List.foldl_cons, List.foldl_cons, List.foldl_nil, ← loaded, act_step, drawnOnce]
  have hcount : ((State.initial ⟨0, 0⟩).samples
      [.load (.buffer .fixed [0xCF, 0x00, 0xC0, 0xFF]), .step]).length = 1 := by
    rw [samples, sampleBy?_of_ne_step (by simp), ← loaded, samples, sampleBy?_step, if_pos samples_loaded]
    rfl
  have hh : drawnOnce.halted = false := by
    rw [halted, drawnOnce, (step_of_samples samples_loaded).2]
    rfl
  have hp : drawnOnce.pc.toNat ≤ 0xFFE := by
    rw [drawnOnce, (step_of_samples samples_loaded).1]
    decide
  have hw : drawnOnce.word &&& 0xF000 = 0xC000 := by
    rw [word_drawnOnce]
    decide
  obtain ⟨hrng, hdraw, -⟩ := random_stream ⟨0, 0⟩
    [.load (.buffer .fixed [0xCF, 0x00, 0xC0, 0xFF]), .step] drawnOnce hfollow 1 hcount.symm
  obtain ⟨hregister, hkey, -⟩ := hdraw hh hp hw
  rw [word_drawnOnce] at hregister
  refine ⟨hfollow, hcount, hh, hp, hw, hrng.trans ?_, hregister.trans ?_, hkey.trans ?_⟩
  all_goals decide +kernel

end State

end Chip8
