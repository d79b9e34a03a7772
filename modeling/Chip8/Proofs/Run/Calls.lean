import Chip8.Proofs.Cycle.Transfer
import Chip8.Proofs.Run.Action

/-!
Calls and returns over a run.  `State.history` lists the calls and returns that the actions of a run
carry out, and `pending` the calls of such a list that no return matches, when every return matches
the last call that is still open.

* `holds_follow` — after any actions the stack holds the return addresses of the pending calls.
* `holds_above` — as long as the depth does not come back to what it was before a call, the return
  address of that call stays in its slot, with everything below it.

Main result: `calls_and_returns` puts the two together.  When the depth first comes back, that is
a return; it goes on past the call, and the stack is what it was before it.
-/

namespace Chip8

/-! ### Pending calls -/

/-- The sites of the calls of a history, newest first, that no return matches.  On the way back,
`owed` counts the returns met that still look for their call. -/
def unmatched : List Transfer → Nat → List UInt16
  | [], _ => []
  | .ret :: older, owed => unmatched older (owed + 1)
  | .call site :: older, 0 => site :: unmatched older 0
  | .call _ :: older, owed + 1 => unmatched older owed

/-- The sites of the calls of a history, both oldest first, that no return matches. -/
def pending (history : List Transfer) : List UInt16 :=
  (unmatched history.reverse 0).reverse

/-- One more return owed takes the newest unmatched call away. -/
theorem unmatched_succ (newest : List Transfer) (owed : Nat) :
    unmatched newest (owed + 1) = (unmatched newest owed).tail := by
  induction newest generalizing owed with
  | nil => rfl
  | cons t older ih =>
    cases t with
    | ret => exact ih (owed + 1)
    | call site =>
      cases owed with
      | zero => rfl
      | succ owed => exact ih owed

theorem pending_concat_call (history : List Transfer) (site : UInt16) :
    pending (history ++ [.call site]) = pending history ++ [site] := by
  rw [pending, pending, List.reverse_append]
  exact List.reverse_cons

theorem pending_concat_ret (history : List Transfer) :
    pending (history ++ [.ret]) = (pending history).dropLast := by
  rw [pending, pending, List.reverse_append, List.dropLast_reverse, ← unmatched_succ]
  rfl

namespace State

/-! ### Histories -/

/-- The call or return an action carries out. -/
def transferBy? (s : State) : Action → Option Transfer
  | .step => s.transfer?
  | _ => none

/-- The calls and returns a list of actions carries out, oldest first. -/
def history (s : State) : List Action → List Transfer
  | [] => []
  | a :: rest => (s.transferBy? a).toList ++ (s.act a).history rest

variable {s : State} {l : List UInt16}

/-- What an action does to the list the stack holds. -/
theorem act_view (h : s.stack.Holds l) (a : Action) : s.ListView (s.act a) l (s.transferBy? a) := by
  by_cases ha : a = .step
  · rw [ha]
    exact list_view h
  · have hnone : s.transferBy? a = none := by
      cases a with
      | step => exact absurd rfl ha
      | _ => rfl
    obtain ⟨memory, keypad, he⟩ := s.act_eq_of_ne_step ha
    rw [hnone]
    exact .other (by rw [he])

/-! ### The stack holds the pending calls -/

theorem holds_act {before : List Transfer}
    (h : s.stack.Holds ((pending before).map returnAddress)) (a : Action) :
    (s.act a).stack.Holds ((pending (before ++ (s.transferBy? a).toList)).map returnAddress) := by
  have hv := act_view h a
  generalize s.transferBy? a = o at hv ⊢
  cases hv with
  | call hstack =>
    rw [Option.toList_some, pending_concat_call, List.map_append]
    exact hstack
  | ret rest x hl hpc hstack =>
    rw [Option.toList_some, pending_concat_ret, List.map_dropLast, hl, List.dropLast_concat]
    exact hstack
  | other hstack =>
    rw [Option.toList_none, List.append_nil, hstack]
    exact h

theorem holds_follow {before : List Transfer}
    (h : s.stack.Holds ((pending before).map returnAddress)) (actions : List Action) :
    (s.follow actions).stack.Holds
      ((pending (before ++ s.history actions)).map returnAddress) := by
  -- the history so far grows by what the first action carries out
  induction actions generalizing s before with
  | nil =>
    rw [history, List.append_nil]
    exact h
  | cons a rest ih =>
    rw [history, ← List.append_assoc]
    exact ih (holds_act h a)

/-! ### From a call to the return that matches it -/

/-- One action above a return address: it stays in its slot, or the action is the return that takes
it off. -/
theorem holds_above_act {r : UInt16} {above : List UInt16} (h : s.stack.Holds (l ++ r :: above))
    (a : Action) :
    (∃ above', (s.act a).stack.Holds (l ++ r :: above')) ∨
      a = .step ∧ s.transfer? = some .ret ∧ (s.act a).pc = r ∧ (s.act a).stack.Holds l := by
  have hv := act_view h a
  generalize ho : s.transferBy? a = o at hv
  cases hv with
  | call hstack =>
    rw [List.append_assoc, List.cons_append] at hstack
    exact .inl ⟨_, hstack⟩
  | other hstack =>
    rw [hstack]
    exact .inl ⟨above, h⟩
  | ret rest x hl hpc hstack =>
    rcases List.eq_nil_or_concat above with habove | ⟨above', y, habove⟩
    · -- nothing lies above, so the return takes `r` itself off
      rw [habove] at hl
      obtain ⟨hrest, hx⟩ := List.append_inj' hl rfl
      have ha : a = .step := by
        cases a with
        | step => rfl
        | _ => cases ho
      rw [ha] at ho
      rw [← hrest] at hstack
      rw [← List.head_eq_of_cons_eq hx] at hpc
      exact .inr ⟨ha, ho, hpc, hstack⟩
    · -- the return takes the last of the addresses above off
      rw [habove, List.concat_eq_append, ← List.cons_append, ← List.append_assoc] at hl
      obtain ⟨hrest, -⟩ := List.append_inj' hl rfl
      rw [← hrest] at hstack
      exact .inl ⟨above', hstack⟩

/-- As long as the depth does not come back to that of the list below, a return address and all
below it stay in their slots. -/
theorem holds_above {p : Int32} (hp : p.toInt = l.length) {r : UInt16} {above : List UInt16}
    (h : s.stack.Holds (l ++ r :: above)) (actions : List Action)
    (hdepth : ∀ k ≤ actions.length, (s.follow (actions.take k)).stack.pointer ≠ p) :
    ∃ above', (s.follow actions).stack.Holds (l ++ r :: above') := by
  induction actions generalizing s above with
  | nil => exact ⟨above, h⟩
  | cons a rest ih =>
    rcases holds_above_act h a with ⟨above', ha⟩ | ⟨-, -, -, hl⟩
    · refine ih ha fun k hk => ?_
      exact hdepth (k + 1) (Nat.succ_le_succ hk)
    · -- the depth after the first action is that of `l` already
      have hback : (s.act a).stack.pointer = p := Int32.toInt_inj.mp (hl.pointer.trans hp.symm)
      exact absurd hback (hdepth 1 (Nat.succ_le_succ (Nat.zero_le _)))

/-- **Calls and returns over a run.**  After any actions from the initial state, the stack holds the
return addresses of the calls pending in the history, oldest first, and an action that is neither a
call nor a return carried out leaves the stack as it is.  If the next step is a call at `site` and
the depth first comes back by an action `a`, then `a` is a return to the instruction after `site`
and restores the stack. -/
theorem calls_and_returns (rng : Key) (before : List Action) (s : State)
    (hs : s = (State.initial rng).follow before) :
    s.stack.Holds ((pending ((State.initial rng).history before)).map returnAddress) ∧
      (∀ a, s.transferBy? a = none → (s.act a).stack = s.stack) ∧
      (∀ (site : UInt16) (between : List Action) (a : Action) (t : State),
        s.transferBy? .step = some (.call site) →
        t = s.step.follow between →
        (∀ k ≤ between.length,
          (s.step.follow (between.take k)).stack.pointer ≠ s.stack.pointer) →
        (t.act a).stack.pointer = s.stack.pointer →
        site = s.pc ∧ a = .step ∧ t.transferBy? a = some .ret ∧
          (t.act a).pc.toNat = (site.toNat + 2) % 4096 ∧ (t.act a).stack = s.stack) := by
  have hl : s.stack.Holds ((pending ((State.initial rng).history before)).map returnAddress) := by
    have hinitial : (State.initial rng).stack.Holds ((pending []).map returnAddress) :=
      CallStack.holds_empty
    rw [hs]
    exact holds_follow hinitial before
  refine ⟨hl, fun a ha => ?_, fun site between a t hcall ht hdepth hback => ?_⟩
  · have hv := act_view hl a
    rw [ha] at hv
    cases hv with
    | other hstack => exact hstack
  · have hv := act_view hl .step
    rw [hcall] at hv
    cases hv with
    | call hstack =>
      obtain ⟨above, habove⟩ := holds_above (s := s.step) hl.pointer hstack between hdepth
      rw [← ht] at habove
      rcases holds_above_act habove a with ⟨above', hstill⟩ | ⟨ha, hret, hpc, hrest⟩
      · -- the return address still lies above, so the depth is not back
        have hlen := hstill.pointer
        rw [hback, hl.pointer, List.length_append, List.length_cons] at hlen
        omega
      · refine ⟨rfl, ha, ?_, ?_, hrest.unique hl⟩
        · rw [ha]
          exact hret
        · rw [hpc, toNat_returnAddress]

/-- `2204` at `0x200`, and `00EE` at `0x204`. -/
def callAndReturn : State :=
  loaded [0x22, 0x04, 0x00, 0x00, 0x00, 0xEE]

theorem step_callAndReturn :
    callAndReturn.step = (callAndReturn.begun.perform (.call 0x204)).tickTimers ∧
      callAndReturn.transferBy? .step = some (.call 0x200) := by
  have hload := loaded_eq [0x22, 0x04, 0x00, 0x00, 0x00, 0xEE] (by decide)
  have hw : callAndReturn.word = 0x2204 := by
    rw [callAndReturn, hload, word_writeAll (i := 0) rfl rfl (by decide) (by decide)]
    decide
  have hs : callAndReturn.halted = false := by
    rw [callAndReturn, hload]
    rfl
  have hp : callAndReturn.pc = 0x200 := by
    rw [callAndReturn, hload]
    rfl
  obtain ⟨hstep, hh⟩ : callAndReturn.step = (callAndReturn.begun.perform (.call 0x204)).tickTimers ∧
      callAndReturn.step.halted = false :=
    step_loaded (by decide) (by decide) (by decide) (by decide)
  refine ⟨hstep, ?_⟩
  show callAndReturn.transfer? = _
  rw [transfer?_of_executed hs hh, hw, hp]
  decide

/-- The depth is zero, one after the call, and zero after the return. -/
theorem pointer_callAndReturn :
    callAndReturn.stack.pointer = 0 ∧ callAndReturn.step.stack.pointer = 1 ∧
      callAndReturn.step.step.stack.pointer = 0 := by
  have hload := loaded_eq [0x22, 0x04, 0x00, 0x00, 0x00, 0xEE] (by decide)
  have hcall := step_callAndReturn.1
  have hpushed : callAndReturn.step.stack = CallStack.empty.push 0x202 := by
    rw [hcall, callAndReturn, hload]
    rfl
  have hi : Instruction.ofWord callAndReturn.step.word = .ret := by
    rw [hcall, callAndReturn, hload, word_writeAll (i := 4) rfl rfl (by decide) (by decide)]
    decide
  have hs : callAndReturn.step.halted = false := by
    rw [hcall, callAndReturn, hload]
    rfl
  have hp : callAndReturn.step.pc.toNat ≤ 0xFFE := by
    rw [hcall]
    decide
  have hf : callAndReturn.step.fault? .ret = none := by
    rw [fault?, hpushed]
    decide
  refine ⟨?_, ?_, ?_⟩
  · rw [callAndReturn, hload]
    rfl
  · rw [hpushed]
    decide
  · rw [(step_eq_perform hs hp hi hf).1]
    show (callAndReturn.step.begun.perform .ret).stack.pointer = 0
    rw [perform_stack, begun_stack, hpushed]
    decide

/-- The return comes back to `0x202`. -/
theorem calls_and_returns_callAndReturn :
    callAndReturn = (State.initial ⟨0, 0⟩).follow
        [.load (.buffer .fixed [0x22, 0x04, 0x00, 0x00, 0x00, 0xEE])] ∧
      callAndReturn.transferBy? .step = some (.call 0x200) ∧
      callAndReturn.step.transferBy? .step = some .ret ∧
      callAndReturn.step.step.pc.toNat = 0x202 ∧
      callAndReturn.step.step.stack = callAndReturn.stack := by
  obtain ⟨h0, h1, h2⟩ := pointer_callAndReturn
  obtain ⟨-, -, hmatch⟩ := calls_and_returns ⟨0, 0⟩
    [.load (.buffer .fixed [0x22, 0x04, 0x00, 0x00, 0x00, 0xEE])] callAndReturn rfl
  have hdepth : ∀ k ≤ ([] : List Action).length,
      (callAndReturn.step.follow (([] : List Action).take k)).stack.pointer ≠
        callAndReturn.stack.pointer := by
    intro k _
    rw [List.take_nil, follow_nil, h0, h1]
    decide
  have hback : (callAndReturn.step.act .step).stack.pointer = callAndReturn.stack.pointer := by
    rw [act_step, h2, h0]
  obtain ⟨-, -, htaken, hpc, hsame⟩ :=
    hmatch 0x200 [] .step callAndReturn.step step_callAndReturn.2 (follow_nil _).symm hdepth hback
  exact ⟨rfl, step_callAndReturn.2, htaken, hpc, hsame⟩

end State

end Chip8
