import Chip8.Proofs.Machine.Errors
import Chip8.Proofs.Machine.Trace
import Mathlib.Algebra.GroupWithZero.Nat
import Mathlib.Data.List.Nodup

/-!
Recorders over a run.  What a recorder is told comes from several places of a step and of a load:
records of instructions, second notices of unknown words, faults, programs.  Here it is set against
what the machine does: `Machine.history` lists the records of the cycles that a list of calls runs
without a fault, and `Machine.loads` counts the programs it takes.

* `Recorder.Shows` — what a recorder has to show for a history, whether the machine is halted, and a
  number of loads: the last records within its limit, a count of every name, the unknown words, at
  most one fault;
* `Shows.executed`, `Shows.faulted`, `Shows.loaded` — one event at a time;
* `Machine.Records` — the observer at a place is such a recorder.  Steps, loads, runs and all other
  calls keep it (`Records.step`, `Records.load`, `Records.runFrom`, `Records.call`).

Main result: `recorder_after`, for machines of any setup and any list of calls.
-/

namespace Chip8

/-! ### Tallies -/

theorem Opcode.name_injective : Function.Injective Opcode.name := by
  intro o p h
  have hall : ∀ q : Opcode, q ∈ Opcode.all := fun q => by cases q <;> decide
  have hnames : (Opcode.all.map Opcode.name).Nodup := by decide
  exact List.inj_on_of_nodup_map hnames (hall o) (hall p) h

namespace Tally

theorem lookup_bump (t : Tally) (o p : Opcode) :
    (t.bump o).lookup p = if p = o then some (t.count o + 1) else t.lookup p := by
  induction t with
  | nil => by_cases h : p = o <;> simp [bump, count, h]
  | cons e rest ih =>
    obtain ⟨q, n⟩ := e
    unfold count at ih ⊢
    by_cases h : q = o <;> by_cases h' : p = q <;> grind [bump]

/-- A tally lists no kind twice. -/
theorem nodup_bump {t : Tally} (h : (t.map Prod.fst).Nodup) (o : Opcode) :
    ((t.bump o).map Prod.fst).Nodup ∧
      ∀ p ∈ (t.bump o).map Prod.fst, p = o ∨ p ∈ t.map Prod.fst := by
  induction t with
  | nil => simp [bump]
  | cons e rest ih =>
    obtain ⟨q, n⟩ := e
    obtain ⟨hq, hrest⟩ := List.nodup_cons.mp h
    obtain ⟨hnodup, hmem⟩ := ih hrest
    rw [bump]
    by_cases hqo : q = o
    · rw [if_pos hqo]
      exact ⟨h, fun p hp => .inr hp⟩
    · rw [if_neg hqo]
      refine ⟨List.nodup_cons.mpr ⟨fun hin => ?_, hnodup⟩, fun p hp => ?_⟩
      · exact (hmem q hin).elim hqo hq
      · rcases List.mem_cons.mp hp with rfl | hp
        · exact .inr List.mem_cons_self
        · exact (hmem p hp).imp_right (List.mem_cons_of_mem q)

theorem sum_bump (t : Tally) (o : Opcode) :
    ((t.bump o).map Prod.snd).sum = (t.map Prod.snd).sum + 1 := by
  induction t with
  | nil => rfl
  | cons e rest ih =>
    obtain ⟨q, n⟩ := e
    rw [bump]
    split
    · simp only [List.map_cons, List.sum_cons]
      omega
    · simp only [List.map_cons, List.sum_cons, ih]
      omega

end Tally

/-! ### What a recorder has to show -/

namespace Recorder

/-- The argument that asks for a limit. -/
def limitArgument : Option Nat → Host.Value
  | some n => .int n
  | none => .null

theorem ofArguments_limitArgument {limit : Option Nat} {r : Recorder}
    (h : ofArguments [limitArgument limit] = .ok r) : r = empty limit := by
  cases limit with
  | none => exact (Except.ok.inj h).symm
  | some n =>
    have hargument : ofArguments [limitArgument (some n)] =
        if 9223372036854775807 < (n : Int) ∨ (n : Int) < -9223372036854775808 then
          .error .overflow
        else if (n : Int) < 0 then .error .negativeLimit else .ok (empty (some n)) := rfl
    rw [hargument] at h
    split at h
    · cases h
    · split at h
      · cases h
      · exact (Except.ok.inj h).symm

/-- How often each name was counted. -/
def statistics (r : Recorder) : List (String × Nat) :=
  r.counts.map fun e => (e.1.name, e.2)

/-- The last records within a limit. -/
def latest (limit : Option Nat) (executed : List Record) : List Record :=
  match limit with
  | some n => executed.drop (executed.length - n)
  | none => executed

theorem latest_eq (limit : Option Nat) (executed : List Record) :
    latest limit executed = (keep limit executed.reverse).reverse := by
  cases limit with
  | none => exact executed.reverse_reverse.symm
  | some n =>
    rw [latest, keep, List.take_reverse, List.reverse_reverse]

/-- It does not matter whether the records out of the limit are dropped early or late. -/
theorem keep_cons_keep (limit : Option Nat) (record : Record) (records : List Record) :
    keep limit (record :: keep limit records) = keep limit (record :: records) := by
  rcases limit with - | - | n
  · rfl
  · rfl
  · simp only [keep, List.take_succ_cons, List.take_take]
    rw [Nat.min_eq_left (Nat.le_succ n)]

/-- A lookup by name is a lookup by kind. -/
theorem lookup_statistics (r : Recorder) (o : Opcode) :
    r.statistics.lookup o.name = r.counts.lookup o := by
  rw [statistics]
  induction r.counts with
  | nil => rfl
  | cons e rest ih =>
    obtain ⟨p, n⟩ := e
    simp only [List.map_cons, List.lookup_cons, ih]
    by_cases h : o = p
    · simp [h]
    · have hname : o.name ≠ p.name := fun hn => h (Opcode.name_injective hn)
      simp [beq_eq_false_iff_ne.mpr h, beq_eq_false_iff_ne.mpr hname]

/-- What a recorder has to show for the records of the cycles executed, whether the machine is
halted, and how many programs it has loaded. -/
structure Shows (r : Recorder) (limit : Option Nat) (executed : List Record) (halted : Bool)
    (loads : Nat) : Prop where
  limited : r.limit = limit
  /-- The last records within the limit are kept, in order. -/
  records : r.records = latest limit executed
  /-- A name that occurs has the number of its records, of all that there were. -/
  counts : ∀ name, r.statistics.lookup name =
    let n := executed.countP fun e => e.opcode.name = name
    if n = 0 then none else some n
  names : (r.statistics.map Prod.fst).Nodup
  total : (r.statistics.map Prod.snd).sum = executed.length
  /-- All records of unknown words are kept, in order. -/
  unimplemented : r.unimplemented = executed.filter fun e => e.status = .unimplementedOpcode
  faults : r.faults.length = if halted then 1 else 0
  programsLoaded : r.programsLoaded = loads

variable {r : Recorder} {limit : Option Nat} {past : List Record} {halted : Bool} {loads : Nat}

theorem shows_empty (limit : Option Nat) : (empty limit).Shows limit [] false 0 where
  limited := rfl
  records := by cases limit <;> simp [latest, empty, Recorder.records]
  counts := fun _ => rfl
  names := List.nodup_nil
  total := rfl
  unimplemented := rfl
  faults := rfl
  programsLoaded := rfl

/-- The recorder after it was told of an instruction, and again if its word is unknown. -/
def hear (r : Recorder) (record : Record) : Recorder :=
  let told := r.receive (.instruction record)
  if record.status = .unimplementedOpcode then told.receive (.unimplemented record) else told

theorem hear_eq (r : Recorder) (record : Record) :
    r.hear record =
      { r with
        newest := keep r.limit (record :: r.newest)
        counts := r.counts.bump record.opcode
        unknown :=
          if record.status = .unimplementedOpcode then record :: r.unknown else r.unknown } := by
  rw [hear]
  split <;> rfl

/-- A name of no kind is not counted. -/
theorem lookup_statistics_eq_none (r : Recorder) {name : String} (h : ∀ o : Opcode, o.name ≠ name) :
    r.statistics.lookup name = none := by
  rw [List.lookup_eq_none_iff]
  intro e he
  obtain ⟨c, -, rfl⟩ := List.mem_map.mp he
  exact bne_iff_ne.mpr (h c.1).symm

/-- The counts after one more record. -/
theorem Shows.counts_hear (h : r.Shows limit past halted loads) (record : Record) (name : String) :
    (r.hear record).statistics.lookup name =
      let n := (past ++ [record]).countP fun e => e.opcode.name = name
      if n = 0 then none else some n := by
  have hsucc : (past ++ [record]).countP (fun e => e.opcode.name = name) =
      past.countP (fun e => e.opcode.name = name) + if record.opcode.name = name then 1 else 0 := by
    rw [List.countP_append, List.countP_singleton]
    simp only [decide_eq_true_eq]
  have hpast := h.counts name
  rw [hsucc]
  generalize past.countP (fun e => e.opcode.name = name) = n at hpast
  -- names are those of kinds, one to one, or no record has them
  by_cases hname : ∃ o : Opcode, o.name = name
  · obtain ⟨o, rfl⟩ := hname
    rw [lookup_statistics] at hpast ⊢
    rw [hear_eq, Tally.lookup_bump, Tally.count]
    by_cases ho : o = record.opcode
    · -- the kind of the record counts from one if it is new
      subst ho
      rw [hpast]
      by_cases hn : n = 0
      · simp [hn]
      · simp [hn]
    · have hne : record.opcode.name ≠ o.name := fun hn => ho (Opcode.name_injective hn).symm
      rw [if_neg ho, if_neg hne]
      exact hpast
  · have hne : ∀ o : Opcode, o.name ≠ name := fun o ho => hname ⟨o, ho⟩
    rw [lookup_statistics_eq_none _ hne] at hpast ⊢
    rw [if_neg (hne record.opcode)]
    exact hpast

theorem Shows.executed (h : r.Shows limit past halted loads) (record : Record) :
    (r.hear record).Shows limit (past ++ [record]) halted loads := by
  have hcounts := h.counts_hear record
  have hnewest : r.newest = keep limit past.reverse := by
    rw [← r.newest.reverse_reverse, ← Recorder.records, h.records, latest_eq, List.reverse_reverse]
  have hnames : r.counts.map Prod.fst |>.Nodup := by
    have hn := h.names
    rw [statistics, List.map_map] at hn
    exact List.Nodup.of_map Opcode.name (by rwa [List.map_map])
  rw [hear_eq] at hcounts ⊢
  refine ⟨h.limited, ?_, hcounts, ?_, ?_, ?_, h.faults, h.programsLoaded⟩
  · rw [Recorder.records, latest_eq, List.reverse_append, h.limited, hnewest, keep_cons_keep]
    rfl
  · rw [statistics, List.map_map]
    have hbump := (Tally.nodup_bump hnames record.opcode).1.map Opcode.name_injective
    rwa [List.map_map] at hbump
  · have htotal := h.total
    rw [statistics, List.map_map] at htotal ⊢
    rw [List.length_append, ← htotal]
    exact Tally.sum_bump r.counts record.opcode
  · have hunimplemented := h.unimplemented
    rw [Recorder.unimplemented] at hunimplemented ⊢
    rw [List.filter_append, ← hunimplemented]
    by_cases hu : record.status = .unimplementedOpcode
    · simp [hu]
    · simp [hu]

theorem Shows.faulted (h : r.Shows limit past false loads) (e : Error) :
    (r.receive (.fault e)).Shows limit past true loads := by
  obtain ⟨hlimit, hrecords, hcounts, hnames, htotal, hunimplemented, hfaults, hloads⟩ := h
  refine ⟨hlimit, hrecords, hcounts, hnames, htotal, hunimplemented, ?_, hloads⟩
  rw [Recorder.faults, List.length_reverse] at hfaults ⊢
  exact congrArg (· + 1) hfaults

theorem Shows.loaded (h : r.Shows limit past halted loads) (size : Nat) :
    (r.receive (.programLoaded size)).Shows limit past halted (loads + 1) := by
  obtain ⟨hlimit, hrecords, hcounts, hnames, htotal, hunimplemented, hfaults, hloads⟩ := h
  exact ⟨hlimit, hrecords, hcounts, hnames, htotal, hunimplemented, hfaults, congrArg (· + 1) hloads⟩

end Recorder

namespace Machine

/-! ### What a machine does -/

/-- The record of the next cycle, unless it is refused or ends with a fault. -/
def executedNext (m : Machine) : List Record :=
  if m.state.step.halted then [] else [m.record]

/-- The records of cycles in a row, up to the first that is refused. -/
def executedFrom (m : Machine) : Nat → List Record
  | 0 => []
  | n + 1 =>
    m.executedNext ++
      match m.step.outcome with
      | .error _ => []
      | .ok _ => m.step.machine.executedFrom n

/-- The records of the cycles of a call. -/
def executedBy (m : Machine) : Call → List Record
  | .act .step => m.executedNext
  | .run cycles description =>
    match cycles.runLength description with
    | .error _ => []
    | .ok n => m.executedFrom n
  | _ => []

/-- How many programs a call loads. -/
def loadsBy (m : Machine) : Call → Nat
  | .act (.load program) =>
    match (m.loadProgram program).outcome with
    | .error _ => 0
    | .ok _ => 1
  | _ => 0

/-- The records of all cycles that a list of calls runs without a fault, oldest first. -/
def history (m : Machine) : List Call → List Record
  | [] => []
  | c :: rest => m.executedBy c ++ (m.call c).machine.history rest

/-- How many programs a list of calls loads. -/
def loads (m : Machine) : List Call → Nat
  | [] => 0
  | c :: rest => m.loadsBy c + (m.call c).machine.loads rest

theorem history_append (m : Machine) (before after : List Call) :
    m.history (before ++ after) = m.history before ++ (m.after before).history after := by
  induction before generalizing m with
  | nil => rfl
  | cons c rest ih =>
    rw [List.cons_append, history, history, ih, List.append_assoc]
    rfl

/-- A cycle that is refused for its word has been executed, and its record says so. -/
theorem executedNext_of_refused {m : Machine} {address word : Int}
    (h : m.step.outcome = .error (.unimplementedOpcode address word)) :
    ∃ record, m.executedNext = [record] ∧ record.status = .unimplementedOpcode ∧
      record.address = address ∧ record.word = word := by
  obtain ⟨-, hst, haddress, hword⟩ := (m.unimplementedOpcode_iff address word).mp h
  have hh := (State.unknown_of_status hst).2.1
  refine ⟨m.record, if_neg (by rw [hh]; exact Bool.false_ne_true), hst, haddress.symm, ?_⟩
  rw [hword, ← State.word_step_of_unknown hst]
  rfl

/-! ### A recorder at its place -/

/-- The observer at a place is a recorder that shows a past. -/
def Records (m : Machine) (k : Nat) (limit : Option Nat) (past : List Record) (loads : Nat) : Prop :=
  ∃ r, m.observers[k]? = some (.recorder r) ∧ r.Shows limit past m.state.halted loads

variable {m : Machine} {k : Nat} {limit : Option Nat} {past : List Record} {count : Nat}

/-- A notice reaches the observer at every place. -/
theorem getElem?_map_receive {os : List Observer} {o : Observer} (h : os[k]? = some o)
    (n : Notice) : (os.map fun o => (o.receive n).1)[k]? = some (o.receive n).1 := by
  rw [List.getElem?_map, h]
  rfl

/-- One step. -/
theorem Records.step (h : m.Records k limit past count) :
    m.step.machine.Records k limit (past ++ m.executedNext) count := by
  obtain ⟨r, hr, hshows⟩ := h
  cases m.state.step_view with
  | halted hs ht =>
    have hnext : m.executedNext = [] := if_pos (by rw [ht, hs])
    rw [step_of_halted hs, hnext, List.append_nil]
    exact ⟨r, hr, hshows⟩
  | faulted f hs hf ht =>
    -- the one fault there can be: the machine was not halted and is from here on
    have hst : m.state.step.status = f.status := congrArg State.status ht
    have hh : m.state.step.halted = true := by
      rw [State.halted, hst]
      exact f.isFatal_status
    have hnext : m.executedNext = [] := if_pos hh
    rw [hs] at hshows
    rw [hnext, List.append_nil]
    refine ⟨r.receive (.fault (f.error m.state)), ?_, ?_⟩
    · rw [(tellsFault hs hst).observers]
      exact getElem?_map_receive hr _
    · rw [step_state, hh]
      exact hshows.faulted _
  | executed hs hf hp ht hh =>
    have hnext : m.executedNext = [m.record] := if_neg (by rw [hh]; exact Bool.false_ne_true)
    rw [hs] at hshows
    rw [hnext]
    refine ⟨r.hear m.record, ?_, ?_⟩
    · rw [(step_handsOut hh).observers, List.getElem?_map, hr, Recorder.hear]
      split <;> simp_all [Observer.receive]
    · rw [step_state, hh]
      exact hshows.executed _

/-- One load, taken or refused. -/
theorem Records.load (h : m.Records k limit past count) (program : Host.Value) :
    (m.loadProgram program).machine.Records k limit past
      (count + m.loadsBy (.act (.load program))) := by
  obtain ⟨r, hr, hshows⟩ := h
  rw [loadsBy, loadProgram]
  rcases program.programBytes with e | bytes
  · exact ⟨r, hr, hshows⟩
  · simp only []
    rcases m.state.memory.loadProgram bytes with e | memory
    · exact ⟨r, hr, hshows⟩
    · refine ⟨r.receive (.programLoaded bytes.length), ?_, hshows.loaded _⟩
      show (Observer.receiveAll (.programLoaded bytes.length) m.observers).1[k]? = _
      rw [Observer.receiveAll_eq]
      exact getElem?_map_receive hr _

/-- A run, up to the cycle that is refused. -/
theorem Records.runFrom (h : m.Records k limit past count) (last : Status) (n : Nat) :
    (m.runFrom last n).machine.Records k limit (past ++ m.executedFrom n) count := by
  induction n generalizing m last past with
  | zero =>
    rw [executedFrom, List.append_nil]
    exact h
  | succ n ih =>
    rw [executedFrom]
    rcases hout : m.step.outcome with e | st
    · rw [runFrom_succ_of_error hout, List.append_nil]
      exact h.step
    · rw [runFrom_succ_of_ok hout, ← List.append_assoc]
      exact ih h.step st

/-- A key pressed or released, or a request for one that there is not. -/
theorem Records.setKey (h : m.Records k limit past count) (key : Host.Value) (down : Bool) :
    (m.update (m.state.setKeyNamed key down)).machine.Records k limit past count := by
  obtain ⟨keypad, hkeypad⟩ := m.state.accept_setKeyNamed key down
  rw [update_eq, hkeypad]
  exact h

/-- One call. -/
theorem Records.call (h : m.Records k limit past count) (c : Call) :
    (m.call c).machine.Records k limit (past ++ m.executedBy c) (count + m.loadsBy c) := by
  have hquiet : past ++ [] = past := List.append_nil past
  cases c with
  | act a =>
    cases a with
    | step => exact h.step
    | load program => exact hquiet.symm ▸ h.load program
    | press key => exact hquiet.symm ▸ h.setKey key true
    | release key => exact hquiet.symm ▸ h.setKey key false
  | run cycles description =>
    rw [executedBy, Machine.call, run]
    rcases cycles.runLength description with e | n
    · exact hquiet.symm ▸ h
    · exact h.runFrom .ok n
  | isKeyDown key | pixelAt x y | readByte address => exact hquiet.symm ▸ h

/-- A list of calls. -/
theorem Records.after (h : m.Records k limit past count) (calls : List Call) :
    (m.after calls).Records k limit (past ++ m.history calls) (count + m.loads calls) := by
  -- the past and the count are those before the first call
  induction calls generalizing m past count with
  | nil =>
    rw [history, List.append_nil]
    exact h
  | cons c rest ih =>
    rw [history, loads, ← List.append_assoc, ← Nat.add_assoc]
    exact ih (h.call c)

/-! ### From the setup on -/

/-- What is made of a list of requests stands where the requests do. -/
theorem getElem?_of_mapM_eq_ok {α β : Type} {f : α → Except Error β} {as : List α} {bs : List β}
    (h : as.mapM f = .ok bs) {a : α} (ha : as[k]? = some a) : ∃ b, f a = .ok b ∧ bs[k]? = some b := by
  induction as generalizing bs k with
  | nil => cases ha
  | cons first rest ih =>
    rw [List.mapM_cons] at h
    obtain ⟨b, hb, h⟩ := exists_of_bind_eq_ok h
    obtain ⟨others, hothers, h⟩ := exists_of_bind_eq_ok h
    obtain rfl := Except.ok.inj h
    cases k with
    | zero =>
      obtain rfl := Option.some.inj ha
      exact ⟨b, hb, rfl⟩
    | succ k =>
      obtain ⟨c, hc, hplace⟩ := ih hothers ha
      exact ⟨c, hc, hplace⟩

/-- A recorder that is asked for stands at its place, empty. -/
theorem records_ofSetup {setup : Setup} {m₀ : Machine} (hm : ofSetup setup = .ok m₀)
    (hk : setup.observers[k]? = some (.recorder [Recorder.limitArgument limit])) :
    m₀.Records k limit [] 0 := by
  obtain ⟨⟨key, -, hstate⟩, -⟩ := ofSetup_eq_ok hm
  rw [ofSetup_eq] at hm
  obtain ⟨observers, hobservers, hm⟩ := exists_of_bind_eq_ok hm
  obtain ⟨described, -, hm⟩ := exists_of_bind_eq_ok hm
  obtain ⟨key', -, hm⟩ := exists_of_bind_eq_ok hm
  obtain ⟨console, -, hm⟩ := exists_of_bind_eq_ok hm
  obtain rfl := Except.ok.inj hm
  obtain ⟨o, ho, hplace⟩ := getElem?_of_mapM_eq_ok hobservers hk
  -- the state is the initial one, which is not halted
  refine ⟨.empty limit, ?_, by rw [hstate]; exact Recorder.shows_empty limit⟩
  rw [ObserverRequest.meet] at ho
  rcases hr : Recorder.ofArguments [Recorder.limitArgument limit] with e | r
  · rw [hr] at ho
    cases ho
  · rw [hr] at ho
    obtain rfl := Except.ok.inj ho
    rw [Recorder.ofArguments_limitArgument hr] at hplace
    exact hplace

/-- **What a recorder keeps.**  Of a machine of any setup, and after any list of calls, refused or
not, a recorder that was asked for shows what the machine has done: the last records within its
limit, the number of records of each name, all records of unknown words, one fault if the machine is
halted and none otherwise, and the number of programs taken.  A cycle that a strict machine refuses
for its word has its record in the history like any other. -/
theorem recorder_after (limit : Option Nat) (setup : Setup) (m₀ : Machine) (k : Nat)
    (hm : ofSetup setup = .ok m₀)
    (hk : setup.observers[k]? = some (.recorder [Recorder.limitArgument limit]))
    (calls : List Call) :
    (∃ r, (m₀.after calls).observers[k]? = some (.recorder r) ∧
      r.Shows limit (m₀.history calls) (m₀.after calls).state.halted (m₀.loads calls)) ∧
      ∀ address word, (m₀.after calls).step.outcome = .error (.unimplementedOpcode address word) →
        ∃ record, m₀.history (calls ++ [.act .step]) = m₀.history calls ++ [record] ∧
          record.status = .unimplementedOpcode ∧ record.address = address ∧ record.word = word := by
  refine ⟨?_, fun address word hout => ?_⟩
  · have h := (records_ofSetup hm hk).after calls
    rw [List.nil_append, Nat.zero_add] at h
    exact h
  · obtain ⟨record, hnext, hrecord⟩ := executedNext_of_refused hout
    refine ⟨record, ?_, hrecord⟩
    rw [history_append, history, history, executedBy, hnext]
    rfl

/-- A strict machine with a recorder that keeps one record. -/
def recorded : Machine :=
  { watched (State.initial ⟨0, 0⟩) with
    observers := [.listener, .recorder (.empty (some 1))]
    strict := true }

/-- Six calls: a load, a load that is refused, `6001`, an unknown word, a run that ends with a return
that has no call pending, and a step of the machine that is halted by then. -/
def sixCalls : List Call :=
  [.act (.load (.buffer .fixed [0x60, 0x01, 0xFF, 0xFF, 0x00, 0xEE])), .act (.load (.int 5)),
    .act .step, .act .step, .run (.int 3), .act .step]

theorem history_sixCalls :
    (∃ first second, recorded.history sixCalls = [first, second] ∧
      first.opcode = .set ∧ first.status = .ok ∧
      second.opcode = .unimplemented ∧ second.status = .unimplementedOpcode) ∧
    (recorded.after sixCalls).state.halted = true ∧ recorded.loads sixCalls = 1 := by
  have hseen : (recorded.history sixCalls).map (fun e => (e.opcode, e.status)) =
        [(.set, .ok), (.unimplemented, .unimplementedOpcode)] ∧
      (recorded.after sixCalls).state.halted = true ∧ recorded.loads sixCalls = 1 := by
    decide +kernel
  obtain ⟨first, rest, hfirst, h1, hrest⟩ := List.map_eq_cons_iff.mp hseen.1
  obtain ⟨second, none, hsecond, h2, hnone⟩ := List.map_eq_cons_iff.mp hrest
  rw [hsecond, List.map_eq_nil_iff.mp hnone] at hfirst
  exact ⟨⟨first, second, hfirst, congrArg Prod.fst h1, congrArg Prod.snd h1,
    congrArg Prod.fst h2, congrArg Prod.snd h2⟩, hseen.2⟩

/-- The first record is dropped, and still counted. -/
theorem recorder_after_sixCalls :
    ofSetup { observers := [.listener, .recorder [Recorder.limitArgument (some 1)]]
              strict := .bool true } = .ok recorded ∧
      ∃ r, (recorded.after sixCalls).observers[1]? = some (.recorder r) ∧
        r.records.map (fun e => e.opcode) = [.unimplemented] ∧
        r.statistics.lookup "SET" = some 1 ∧ r.statistics.lookup "RETURN" = none ∧
        r.unimplemented = r.records ∧ r.faults.length = 1 ∧ r.programsLoaded = 1 := by
  have hsetup : ofSetup { observers := [.listener, .recorder [Recorder.limitArgument (some 1)]]
                          strict := .bool true } = .ok recorded := rfl
  obtain ⟨⟨r, hr, hshows⟩, -⟩ := recorder_after (some 1) _ recorded 1 hsetup rfl sixCalls
  obtain ⟨⟨first, second, hhistory, hset, hok, hword, hst⟩, hhalted, hloads⟩ := history_sixCalls
  rw [hhistory, hhalted, hloads] at hshows
  have hrecords : r.records = [second] := hshows.records
  refine ⟨hsetup, r, hr, ?_, ?_, ?_, ?_, hshows.faults, hshows.programsLoaded⟩
  · rw [hrecords, List.map_singleton, hword]
  · rw [hshows.counts]
    simp [hset, hword, Opcode.name]
  · rw [hshows.counts]
    simp [hset, hword, Opcode.name]
  · have hneg : ¬first.status = .unimplementedOpcode := by
      rw [hok]
      decide
    rw [hshows.unimplemented, hrecords, List.filter_cons_of_neg (by simpa using hneg),
      List.filter_cons_of_pos (by simpa using hst), List.filter_nil]

end Machine

end Chip8
