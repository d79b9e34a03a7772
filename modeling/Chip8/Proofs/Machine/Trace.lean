import Chip8.Proofs.Cycle.OwnWord
import Chip8.Proofs.Machine.Report

/-!
What a step tells the observers.  `Machine.step` makes one record of a cycle that ends without a
fault, and hands it to every observer once, in their order; `step_handsOut` says so for observers of
every kind, by what they hold afterwards and by what the host sees of them.

The record is of the state after the step, but for its address and its word.  The address is that of
the instruction.  The word is read from memory after the step, so it is the word executed only if
the instruction kept its own word: `step_record` shows that everything else in the record is right
for every program, and that the word, the kind and the operands are right exactly when
`State.KeepsWord` holds.  `step_record_overwritten` is a store that is traced as a word of no kind.
-/

namespace Chip8

/-- A word read as an integer and back. -/
theorem Word.ofInt_toNat (w : Word) : ofInt (w.toNat : Int) = w := by
  have h : w.toNat < 65536 := w.toNat_lt
  have hm : ((w.toNat : Int) % 2 ^ 16).toNat = w.toNat := by omega
  rw [ofInt, UInt16.ofInt, hm, UInt16.ofNat_toNat]

/-- An observer hands on the notice it was given and no other. -/
theorem Observer.eq_of_notice_mem_receive {o : Observer} {n n' : Notice}
    (h : Event.notice n' ∈ (o.receive n).2) : n' = n := by
  cases o with
  | listener => simpa [receive] using h
  | printer console =>
    rcases ht : noticeText? n with - | text
    · simp [receive, ht] at h
    · simp [receive, ht] at h
  | recorder r => simp [receive] at h

namespace Machine

/-! ### The record of a step -/

/-- A step hands a record to every observer, in their order, and no other record to any.  Where the
record is of an unknown word, the observers hear of it a second time. -/
structure HandsOut (m : Machine) (r : Record) : Prop where
  observers : m.step.machine.observers = m.observers.map fun o =>
    let told := (o.receive (.instruction r)).1
    if r.status = .unimplementedOpcode then (told.receive (.unimplemented r)).1 else told
  events : ∃ rest, m.step.events =
      (m.observers.flatMap fun o => (o.receive (.instruction r)).2) ++ rest ∧
    ∀ r', Event.notice (.instruction r') ∉ rest

/-- The observers hear of the record before anything else happens. -/
theorem step_handsOut {m : Machine} (hs : m.state.step.halted = false) : m.HandsOut m.record := by
  have hst : m.record.status = m.state.step.status := rfl
  by_cases hu : m.state.step.status = .unimplementedOpcode
  · obtain ⟨-, hobservers, hevents⟩ := (tellsInstruction hs).unknown hu
    refine ⟨?_, _, hevents, fun r' hn => ?_⟩
    · rw [hobservers, hst, List.map_map]
      simp only [if_pos hu]
      rfl
    · -- what follows is the console's warning and the second notice
      rcases List.mem_append.mp hn with hn | hn
      · obtain ⟨text, -, ht⟩ := List.mem_map.mp hn
        cases ht
      · obtain ⟨o, -, ho⟩ := List.mem_flatMap.mp hn
        cases Observer.eq_of_notice_mem_receive ho
  · obtain ⟨-, hobservers, hevents⟩ := (tellsInstruction hs).known hu
    refine ⟨?_, [], ?_, fun r' => List.not_mem_nil⟩
    · rw [hobservers, hst]
      simp only [if_neg hu]
    · rw [hevents, List.append_nil]

/-! ### Whether the record is right -/

/-- **What a trace record says.**  A step that ends without a fault hands every observer one record.
Its address, registers, index, `pc`, timers and status are right for every program.  Its word, kind
and operands are those of the instruction executed exactly if that instruction stored nothing but
the bytes already there over its own word. -/
theorem step_record (m : Machine) (hm : m.state.halted = false)
    (hs : m.state.step.halted = false) :
    ∃ r : Record, m.HandsOut r ∧
      (r.address = m.state.pc.toNat ∧ r.registers = m.state.step.registers ∧
        r.index = m.state.step.index ∧ r.pc = m.state.step.pc ∧
        r.delayTimer = m.state.step.delayTimer ∧ r.soundTimer = m.state.step.soundTimer ∧
        r.status = m.state.step.status) ∧
      ((r.word = m.state.word.toNat ∧ r.bits = m.state.word ∧
        r.opcode = Opcode.ofWord m.state.word) ↔ m.state.KeepsWord) := by
  refine ⟨m.record, step_handsOut hs, ⟨rfl, rfl, rfl, rfl, rfl, rfl, rfl⟩, ?_⟩
  have hw : m.record.bits = m.state.step.memory.readWord m.state.pc.toNat := Word.ofInt_toNat _
  rw [← State.word_step_eq_iff hm hs]
  constructor
  · rintro ⟨-, h, -⟩
    exact hw.symm.trans h
  · intro h
    have hk : m.record.bits = m.state.word := hw.trans h
    refine ⟨?_, hk, ?_⟩
    · show ((m.state.step.memory.readWord m.state.pc.toNat).toNat : Int) = _
      rw [h]
    · rw [Record.opcode, hk]

/-! ### A store over the store itself -/

/-- A machine that has executed `A202` and is about to execute `F055`, which stores `V0` over its
own high byte. -/
def selfStoring (v : UInt8) : Machine where
  state :=
    { State.initial ⟨0, 0⟩ with
      memory := Memory.initial.writeAll 0x200 [0xA2, 0x02, 0xF0, 0x55]
      registers := (Vector.replicate 16 0).set 0 v
      index := 0x202
      pc := 0x202 }
  console := ⟨.text "Chip8", .info, .bool false, .bool true, 0, Clock.ofReadings []⟩
  observers := [.listener]
  strict := false

theorem word_selfStoring (v : UInt8) : (selfStoring v).state.word = 0xF055 := by
  have hjoin : Memory.joinBytes 0xF0 0x55 = 0xF055 := by decide
  rw [State.word_writeAll (i := 2) rfl rfl (by decide) (by decide)]
  exact hjoin

theorem instruction_selfStoring (v : UInt8) :
    Instruction.ofWord (selfStoring v).state.word = .storeRegisters 0 := by
  rw [word_selfStoring]
  decide

theorem halted_step_selfStoring (v : UInt8) : (selfStoring v).state.step.halted = false := by
  have hf : (selfStoring v).state.fault? (.storeRegisters 0) = none := by
    show Memory.accessFault? (Int32.ofNat 0x202) (Int32.ofNat 1) true = none
    decide
  have hp : (selfStoring v).state.pc.toNat ≤ 0xFFE := by
    show (0x202 : UInt16).toNat ≤ 0xFFE
    decide
  exact (State.step_eq_perform rfl hp (instruction_selfStoring v) hf).2

theorem readWord_step_selfStoring (v : UInt8) :
    (selfStoring v).state.step.memory.readWord 0x202 = Memory.joinBytes v 0x55 := by
  have hm := State.memory_step (s := (selfStoring v).state) rfl (halted_step_selfStoring v)
  have hv : (selfStoring v).state.stores (.storeRegisters 0) = [v] := rfl
  rw [instruction_selfStoring, hv] at hm
  rw [hm]
  show Memory.joinBytes
    (((Memory.initial.writeAll 0x200 [0xA2, 0x02, 0xF0, 0x55]).writeAll 0x202 [v]).read 0x202)
    (((Memory.initial.writeAll 0x200 [0xA2, 0x02, 0xF0, 0x55]).writeAll 0x202 [v]).read 0x203) = _
  rw [Memory.read_writeAll _ _ [v] _ (by decide), Memory.read_writeAll _ _ [v] _ (by decide),
    Memory.read_writeAll _ _ [0xA2, 0x02, 0xF0, 0x55] _ (by decide),
    Memory.read_writeAll _ _ [0xA2, 0x02, 0xF0, 0x55] _ (by decide)]
  rfl

/-- The store of the byte already there is handed out as itself. -/
theorem step_record_kept :
    (selfStoring 0xF0).state.halted = false ∧ (selfStoring 0xF0).state.step.halted = false ∧
      ∃ r, (selfStoring 0xF0).HandsOut r ∧ r.word = 0xF055 ∧ r.opcode = .storeRegisters := by
  have hs := halted_step_selfStoring 0xF0
  obtain ⟨r, hr, -, hk⟩ := step_record (selfStoring 0xF0) rfl hs
  have hw : (selfStoring 0xF0).state.KeepsWord := by
    apply (State.word_step_eq_iff rfl hs).mp
    rw [word_selfStoring]
    exact readWord_step_selfStoring 0xF0
  obtain ⟨h1, -, h2⟩ := hk.mpr hw
  rw [word_selfStoring] at h1 h2
  exact ⟨rfl, hs, r, hr, h1, h2⟩

/-- The store of a zero over its own high byte is handed out as the word it left behind. -/
theorem step_record_overwritten :
    (selfStoring 0).state.halted = false ∧ (selfStoring 0).state.step.halted = false ∧
      (selfStoring 0).state.word = 0xF055 ∧
      ∃ r, Event.notice (.instruction r) ∈ (selfStoring 0).step.events ∧
        r.address = 0x202 ∧ r.word = 0x0055 ∧ r.opcode = .unimplemented := by
  have hs := halted_step_selfStoring 0
  have hr : (selfStoring 0).HandsOut (selfStoring 0).record := step_handsOut hs
  have hw : (selfStoring 0).record.word = 0x0055 := by
    show (((selfStoring 0).state.step.memory.readWord 0x202).toNat : Int) = _
    rw [readWord_step_selfStoring]
    decide
  refine ⟨rfl, hs, word_selfStoring 0, (selfStoring 0).record, ?_, rfl, hw, ?_⟩
  · obtain ⟨rest, he, -⟩ := hr.events
    rw [he]
    exact List.mem_append_left _ (List.mem_singleton.mpr rfl)
  · rw [Record.opcode, Record.bits, hw]
    decide

end Machine

end Chip8
