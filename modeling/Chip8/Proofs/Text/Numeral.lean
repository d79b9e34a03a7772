import Chip8.Text.Numeral

/-!
Numerals can be read back.  `hexValue` reads digits in base sixteen, and leading zeros do not count,
so digits in a column of any width have the value they were written for (`hexValue_column`), and
with the sign in front numbers whose numerals agree are equal (`hexadecimal_injective`).  Numerals
hold letters, digits and a sign only, so any other character ends them (`not_mem_hexadecimal`,
`isDigit_of_mem_toString`).

`append_cons_inj` takes a text apart at a character that the part before it does not hold;
`hexadecimal_append_cons_inj` and `toString_append_cons_inj` are its cases for numerals.
-/

namespace Chip8.Text

/-! ### Base sixteen -/

/-- The value of a digit in base sixteen, in upper case. -/
def digitValue (c : Char) : Nat :=
  if c.isDigit then c.toNat - 48 else c.toNat - 55

/-- The number that digits in base sixteen spell, the highest first. -/
def hexValue (cs : List Char) : Nat :=
  cs.foldl (fun n c => 16 * n + digitValue c) 0

theorem digitValue_digitChar : ∀ d < 16, digitValue (Nat.digitChar d).toUpper = d := by
  decide

theorem hexValue_concat (cs : List Char) (c : Char) :
    hexValue (cs ++ [c]) = 16 * hexValue cs + digitValue c := by
  simp [hexValue]

theorem hexValue_hexDigits (n : Nat) : hexValue (hexDigits n) = n := by
  induction n using Nat.strongRecOn with
  | _ n ih =>
    rw [hexDigits, Nat.toDigits_eq_if (by decide)]
    split
    · rename_i hlt
      exact (Nat.zero_add _).trans (digitValue_digitChar n hlt)
    · -- the last digit, behind those of the quotient
      have hlast := digitValue_digitChar (n % 16) (Nat.mod_lt _ (by decide))
      have hrest : hexValue (hexDigits (n / 16)) = n / 16 := ih (n / 16) (by omega)
      rw [List.map_append, List.map_singleton, hexValue_concat, hlast, ← hexDigits, hrest]
      omega

theorem hexValue_leftpad (width : Nat) (cs : List Char) :
    hexValue (cs.leftpad width '0') = hexValue cs := by
  have hzeros (k : Nat) : hexValue (List.replicate k '0') = 0 := by
    induction k with
    | zero => rfl
    | succ k ih => rw [List.replicate_succ', hexValue_concat, ih]; rfl
  rw [List.leftpad, hexValue, List.foldl_append]
  exact congrArg (fun n => cs.foldl (fun n c => 16 * n + digitValue c) n) (hzeros _)

/-- Digits in a column have the value they were written for. -/
theorem hexValue_column (width n : Nat) : hexValue ((hexDigits n).leftpad width '0') = n := by
  rw [hexValue_leftpad, hexValue_hexDigits]

theorem isAlphanum_digitChar (d : Nat) (h : d < 16) :
    (Nat.digitChar d).toUpper.isAlphanum = true := by
  revert d
  decide

theorem isAlphanum_of_mem_hexDigits {n : Nat} {c : Char} (h : c ∈ hexDigits n) :
    c.isAlphanum = true := by
  induction n using Nat.strongRecOn with
  | _ n ih =>
    rw [hexDigits, Nat.toDigits_eq_if (by decide)] at h
    split at h
    · rename_i hlt
      rw [List.map_singleton, List.mem_singleton] at h
      exact h ▸ isAlphanum_digitChar n hlt
    · rw [List.map_append, List.map_singleton, List.mem_append, List.mem_singleton] at h
      rcases h with h | h
      · exact ih (n / 16) (by omega) h
      · exact h ▸ isAlphanum_digitChar _ (Nat.mod_lt _ (by decide))

theorem isAlphanum_of_mem_column {width n : Nat} {c : Char}
    (h : c ∈ (hexDigits n).leftpad width '0') : c.isAlphanum = true := by
  rw [List.leftpad, List.mem_append] at h
  rcases h with h | h
  · rw [List.eq_of_mem_replicate h]
    decide
  · exact isAlphanum_of_mem_hexDigits h

theorem toList_hexadecimal_of_nonneg {width : Nat} {i : Int} (hi : 0 ≤ i) :
    (hexadecimal width i).toList = (hexDigits i.natAbs).leftpad width '0' := by
  rw [hexadecimal, if_neg (by omega), String.toList_ofList]

theorem toList_hexadecimal_of_neg {width : Nat} {i : Int} (hi : i < 0) :
    (hexadecimal width i).toList = '-' :: (hexDigits i.natAbs).leftpad (width - 1) '0' := by
  rw [hexadecimal, if_pos hi, String.toList_ofList]

/-- A numeral holds a minus sign, letters and digits. -/
theorem not_mem_hexadecimal {width : Nat} {i : Int} {c : Char} (hc : c ≠ '-')
    (hd : c.isAlphanum = false) : c ∉ (hexadecimal width i).toList := by
  intro h
  suffices hmem : ∃ w n, c ∈ (hexDigits n).leftpad w '0' by
    obtain ⟨w, n, hmem⟩ := hmem
    exact Bool.false_ne_true (hd.symm.trans (isAlphanum_of_mem_column hmem))
  rcases Int.lt_or_le i 0 with hi | hi
  · rw [toList_hexadecimal_of_neg hi] at h
    exact ⟨_, _, (List.mem_cons.mp h).resolve_left hc⟩
  · rw [toList_hexadecimal_of_nonneg hi] at h
    exact ⟨_, _, h⟩

/-- A numeral that starts with a minus sign is that of a negative number. -/
theorem neg_iff_head?_hexadecimal (width : Nat) (i : Int) :
    i < 0 ↔ (hexadecimal width i).toList.head? = some '-' := by
  rcases Int.lt_or_le i 0 with hi | hi
  · simp [toList_hexadecimal_of_neg hi, hi]
  · refine iff_of_false (by omega) fun h => ?_
    rw [toList_hexadecimal_of_nonneg hi] at h
    exact absurd (isAlphanum_of_mem_column (List.mem_of_head? h)) (by decide)

/-- Numbers whose numerals agree are equal. -/
theorem hexadecimal_injective (width : Nat) : Function.Injective (hexadecimal width) := by
  intro i j h
  have hsign : i < 0 ↔ j < 0 := by
    rw [neg_iff_head?_hexadecimal width, neg_iff_head?_hexadecimal width, h]
  have htext := congrArg String.toList h
  suffices hvalue : ∃ w, hexValue ((hexDigits i.natAbs).leftpad w '0') =
      hexValue ((hexDigits j.natAbs).leftpad w '0') by
    obtain ⟨w, hvalue⟩ := hvalue
    rw [hexValue_column, hexValue_column] at hvalue
    omega
  rcases Int.lt_or_le i 0 with hi | hi
  · rw [toList_hexadecimal_of_neg hi, toList_hexadecimal_of_neg (hsign.mp hi)] at htext
    exact ⟨_, congrArg hexValue (List.tail_eq_of_cons_eq htext)⟩
  · rw [toList_hexadecimal_of_nonneg hi, toList_hexadecimal_of_nonneg (by omega)] at htext
    exact ⟨_, congrArg hexValue htext⟩

/-! ### Base ten -/

theorem isDigit_of_mem_toString {n : Nat} {c : Char} (h : c ∈ (toString n).toList) :
    c.isDigit = true := by
  rw [Nat.toString_eq_ofList_toDigits, String.toList_ofList] at h
  exact Nat.isDigit_of_mem_toDigits (by decide) (by decide) h

theorem toString_injective : Function.Injective fun n : Nat => toString n := by
  intro m n h
  have hdigits : Nat.toDigits 10 m = Nat.toDigits 10 n := by
    simpa only [Nat.toString_eq_ofList_toDigits, String.ofList_inj] using h
  rw [← Nat.ofDigitChars_ten_toDigits (n := m), hdigits, Nat.ofDigitChars_ten_toDigits]

/-! ### Taking a text apart -/

/-- A text is taken apart in one way only at the first place where a character stands. -/
theorem append_cons_inj {c : Char} {cs ds rest rest' : List Char} (hc : c ∉ cs) (hd : c ∉ ds)
    (h : cs ++ c :: rest = ds ++ c :: rest') : cs = ds ∧ rest = rest' := by
  have hsplit := congrArg (List.splitOn c) h
  rw [List.splitOn_append_cons_self_of_not_mem hc, List.splitOn_append_cons_self_of_not_mem hd]
    at hsplit
  obtain ⟨rfl, -⟩ := List.cons_eq_cons.mp hsplit
  exact ⟨rfl, List.tail_eq_of_cons_eq (List.append_cancel_left h)⟩

/-- A numeral in base sixteen ends at a character that it does not hold. -/
theorem hexadecimal_append_cons_inj {width : Nat} {i j : Int} {c : Char}
    {rest rest' : List Char} (hc : c ≠ '-') (hd : c.isAlphanum = false)
    (h : (hexadecimal width i).toList ++ c :: rest = (hexadecimal width j).toList ++ c :: rest') :
    i = j ∧ rest = rest' := by
  obtain ⟨hnum, hrest⟩ := append_cons_inj (not_mem_hexadecimal hc hd) (not_mem_hexadecimal hc hd) h
  exact ⟨hexadecimal_injective width (String.toList_inj.mp hnum), hrest⟩

/-- A numeral in base ten ends at a blank. -/
theorem toString_append_cons_inj {m n : Nat} {rest rest' : List Char}
    (h : (toString m).toList ++ ' ' :: rest = (toString n).toList ++ ' ' :: rest') :
    m = n ∧ rest = rest' := by
  have hblank (n : Nat) : ' ' ∉ (toString n).toList := fun hmem =>
    absurd (isDigit_of_mem_toString hmem) (by decide)
  obtain ⟨hnum, hrest⟩ := append_cons_inj (hblank m) (hblank n) h
  exact ⟨toString_injective (String.toList_inj.mp hnum), hrest⟩

/-- Joined parts hold what the separator holds and what the parts hold. -/
theorem mem_intercalate {c : Char} {sep : List Char} {parts : List (List Char)}
    (h : c ∈ sep.intercalate parts) : c ∈ sep ∨ ∃ part ∈ parts, c ∈ part := by
  induction parts with
  | nil => simp at h
  | cons part parts ih =>
    rcases parts with - | ⟨next, parts⟩
    · rw [List.intercalate_singleton] at h
      exact .inr ⟨part, List.mem_cons_self, h⟩
    · rw [List.intercalate_cons_cons, List.mem_append, List.mem_append] at h
      rcases h with (h | h) | h
      · exact .inr ⟨part, List.mem_cons_self, h⟩
      · exact .inl h
      · exact (ih h).imp_right fun ⟨p, hp, hc⟩ => ⟨p, List.mem_cons_of_mem part hp, hc⟩

end Chip8.Text
