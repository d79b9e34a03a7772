import Chip8.Trace
import Chip8.Proofs.Text.Numeral

/-!
A trace line holds the whole record.  Every numeral of a line is as wide as its number needs, so
the fields do not stand in fixed columns: each one ends at the first character that it cannot hold
itself, a colon, a blank or a bracket, and a line is read from the left, field by field.  The name
of the kind ends at no such character, but it follows from the word, which has been read before it.

* `Status.label_injective`: the names of the named codes and the numbers of the others differ;
* `Record.eq_of_registersText_eq`: the text of the registers holds all sixteen;
* `Record.line_injective`: records that are written alike are equal.
-/

namespace Chip8

/-! ### Status -/

namespace Status

theorem all_isDigit_label_of_lt :
    ∀ code < 7, (label ⟨UInt8.ofNat code⟩).toList.all Char.isDigit = false := by
  decide

theorem eq_of_label_eq_of_named : ∀ code < 7, ∀ code' < 7,
    label ⟨UInt8.ofNat code⟩ = label ⟨UInt8.ofNat code'⟩ → code = code' := by
  decide

theorem label_of_unnamed {s : Status} (h : 7 ≤ s.code.toNat) :
    s.label = toString s.code.toNat := by
  have hname : s.name? = none := by
    unfold name?
    split <;> first | rfl | omega
  rw [label, hname, Option.getD_none]

theorem all_isDigit_label_iff (s : Status) :
    s.label.toList.all Char.isDigit = true ↔ 7 ≤ s.code.toNat := by
  rcases Nat.lt_or_ge s.code.toNat 7 with h | h
  · have hname := all_isDigit_label_of_lt s.code.toNat h
    rw [UInt8.ofNat_toNat] at hname
    exact iff_of_false (by rw [hname]; decide) (by omega)
  · refine iff_of_true (List.all_eq_true.mpr fun c hc => ?_) h
    exact Text.isDigit_of_mem_toString (label_of_unnamed h ▸ hc)

/-- Every code has a label of its own: the names hold letters, and a code with no name is written
as its number. -/
theorem label_injective : Function.Injective label := by
  intro s t h
  suffices hcode : s.code.toNat = t.code.toNat by
    cases s
    cases t
    exact congrArg mk (UInt8.toNat_inj.mp hcode)
  have hnamed : 7 ≤ s.code.toNat ↔ 7 ≤ t.code.toNat := by
    rw [← all_isDigit_label_iff, ← all_isDigit_label_iff, h]
  rcases Nat.lt_or_ge s.code.toNat 7 with hs | hs
  · refine eq_of_label_eq_of_named _ hs _ (by omega) ?_
    rw [UInt8.ofNat_toNat, UInt8.ofNat_toNat]
    exact h
  · rw [label_of_unnamed hs, label_of_unnamed (hnamed.mp hs)] at h
    exact Text.toString_injective h

end Status

/-! ### Registers -/

namespace Record

/-- The text of the registers, one numeral for each. -/
theorem toList_registersText (r : Record) :
    r.registersText.toList =
      [' '].intercalate (r.registers.toList.map fun v => (Text.hexadecimal 2 v.toNat).toList) := by
  rw [registersText, String.toList_intercalate, List.map_map]
  rfl

theorem bracket_not_mem_registersText (r : Record) : ']' ∉ r.registersText.toList := by
  intro h
  rw [toList_registersText] at h
  rcases Text.mem_intercalate h with h | ⟨part, hpart, h⟩
  · exact absurd h (by decide)
  · obtain ⟨v, -, rfl⟩ := List.mem_map.mp hpart
    exact Text.not_mem_hexadecimal (by decide) (by decide) h

theorem eq_of_registersText_eq {r r' : Record} (h : r.registersText = r'.registersText) :
    r.registers = r'.registers := by
  have hsplit (r : Record) : r.registersText.toList.splitOn ' ' =
      r.registers.toList.map fun v => (Text.hexadecimal 2 v.toNat).toList := by
    rw [toList_registersText]
    refine List.splitOn_intercalate ' ' (fun part hpart => ?_) ?_
    · obtain ⟨v, -, rfl⟩ := List.mem_map.mp hpart
      exact Text.not_mem_hexadecimal (by decide) (by decide)
    · simp [← List.length_eq_zero_iff]
  have hdigits : Function.Injective fun v : UInt8 => (Text.hexadecimal 2 v.toNat).toList := by
    intro v v' hv
    have hnum := Text.hexadecimal_injective 2 (String.toList_inj.mp hv)
    exact UInt8.toNat_inj.mp (Int.ofNat_inj.mp hnum)
  have hlist := (hsplit r).symm.trans ((congrArg (·.toList.splitOn ' ') h).trans (hsplit r'))
  exact Vector.toList_inj.mp ((List.map_inj_right fun _ _ hv => hdigits hv).mp hlist)

/-! ### The line -/

/-- A line, cut where its fields end. -/
theorem toList_line (r : Record) :
    r.line.toList = "0x".toList ++ ((Text.hexadecimal 3 r.address).toList ++ ':' :: ' ' ::
      ((Text.hexadecimal 4 r.word).toList ++ ' ' ::
      ((Text.padRight 28 r.opcode.name).toList ++ (" PC=0x".toList ++
      ((Text.hexadecimal 3 r.pc.toNat).toList ++ ' ' :: ("I=0x".toList ++
      ((Text.hexadecimal 3 r.index.toNat).toList ++ ' ' :: ("V=[".toList ++
      (r.registersText.toList ++ ']' :: (" DT=".toList ++
      ((toString r.delayTimer.toNat).toList ++ ' ' :: ("ST=".toList ++
      ((toString r.soundTimer.toNat).toList ++ ' ' :: r.status.label.toList))))))))))))) := by
  have hcolon : ": ".toList = [':', ' '] := rfl
  have hblank : " ".toList = [' '] := rfl
  have hindex : " I=0x".toList = ' ' :: "I=0x".toList := rfl
  have hregisters : " V=[".toList = ' ' :: "V=[".toList := rfl
  have hbracket : "]".toList = [']'] := rfl
  have hsound : " ST=".toList = ' ' :: "ST=".toList := rfl
  unfold line
  simp only [String.toList_append, List.append_assoc]
  rw [hcolon, hblank, hindex, hregisters, hbracket, hsound]
  simp only [List.cons_append, List.nil_append]

/-- **A line loses nothing.**  Records that are written as the same line agree in every field, and
so do the kind and the operands, which are read off the word. -/
theorem line_injective : Function.Injective line := by
  intro r r' h
  have hline := congrArg String.toList h
  rw [toList_line, toList_line] at hline
  obtain ⟨haddress, hline⟩ :=
    Text.hexadecimal_append_cons_inj (by decide) (by decide) (List.append_cancel_left hline)
  obtain ⟨hword, hline⟩ :=
    Text.hexadecimal_append_cons_inj (by decide) (by decide) (List.tail_eq_of_cons_eq hline)
  -- the name of the kind may hold any character, but both lines have the same one
  have hkind : r.opcode = r'.opcode := by rw [opcode, bits, hword, ← bits, ← opcode]
  rw [hkind] at hline
  obtain ⟨hpc, hline⟩ := Text.hexadecimal_append_cons_inj (by decide) (by decide)
    (List.append_cancel_left (List.append_cancel_left hline))
  obtain ⟨hindex, hline⟩ :=
    Text.hexadecimal_append_cons_inj (by decide) (by decide) (List.append_cancel_left hline)
  obtain ⟨hregisters, hline⟩ := Text.append_cons_inj r.bracket_not_mem_registersText
    r'.bracket_not_mem_registersText (List.append_cancel_left hline)
  obtain ⟨hdelay, hline⟩ := Text.toString_append_cons_inj (List.append_cancel_left hline)
  obtain ⟨hsound, hstatus⟩ := Text.toString_append_cons_inj (List.append_cancel_left hline)
  have hregisters := eq_of_registersText_eq (String.toList_inj.mp hregisters)
  have hstatus := Status.label_injective (String.toList_inj.mp hstatus)
  cases r
  cases r'
  simp only [mk.injEq, ← UInt16.toNat_inj, ← UInt8.toNat_inj]
  exact ⟨haddress, hword, hregisters, by exact_mod_cast hindex, by exact_mod_cast hpc, hdelay,
    hsound, hstatus⟩

/-- A state with fields wider than their columns and a status that has no name. -/
def wideFields : State :=
  { State.initial ⟨0, 0⟩ with pc := 0xFFFF, index := 0x1000, delayTimer := 255, status := ⟨200⟩ }

/-- What a record leaves out of the state does not show in its line. -/
theorem line_injective_wideFields :
    wideFields ≠ { wideFields with keypad := Vector.replicate 16 true } ∧
      ofState 0xFFE 0xFFFF wideFields =
        ofState 0xFFE 0xFFFF { wideFields with keypad := Vector.replicate 16 true } :=
  ⟨fun h => absurd (congrArg State.keypad h) (by decide), line_injective rfl⟩

end Record

end Chip8
