import Chip8.Text.UpperCase

/-!
Upper case is reached in one step: the upper case form of a text is its own upper case form
(`upperCase_upperCase`).  No stretch of the table leads into a stretch (`upperRuns_avoid`), nor to a
character with a form of several characters (`upperRuns_avoid_sequences`), and the characters of
those forms have no other upper case form (`upperChar_of_mem_sequence`).
-/

namespace Chip8.Text

/-! ### The table -/

/-- Whether the images of a stretch keep out of another one: they lie before it or behind it, or
both go in steps of two and never meet.  The check runs over all pairs of the table, hence the
comparisons that the kernel evaluates at once. -/
def UpperRun.avoids (r q : UpperRun) : Bool :=
  Nat.blt (r.target + (r.last - r.first)) q.first || Nat.blt q.last r.target ||
    ((Nat.beq r.step 2 || Nat.beq r.first r.last) && (Nat.beq q.step 2 || Nat.beq q.first q.last) &&
      Nat.beq ((r.target + q.first) % 2) 1)

theorem UpperRun.image?_of_avoids {r q : UpperRun} {n m : Nat} (h : r.avoids q = true)
    (hm : r.image? n = some m) : q.image? m = none := by
  obtain ⟨hr, rfl⟩ : (r.first ≤ n ∧ n ≤ r.last ∧ (n - r.first) % r.step = 0) ∧
      r.target + (n - r.first) = m := by
    simpa only [image?, Option.ite_none_right_eq_some, Option.some.injEq] using hm
  rw [image?, if_neg]
  rintro ⟨hfirst, hlast, hstep⟩
  simp only [avoids, Bool.or_eq_true, Bool.and_eq_true, Nat.blt_eq, Nat.beq_eq] at h
  rcases h with (h | h) | ⟨⟨hr2 | hr1, hq2 | hq1⟩, hodd⟩
  · omega
  · omega
  -- the distances to both starts are even, the starts are an odd distance apart
  · rw [hr2] at hr
    rw [hq2] at hstep
    omega
  · rw [hr2] at hr
    omega
  · rw [hq2] at hstep
    omega
  · omega

theorem upperRuns_avoid : (upperRuns.all fun r => upperRuns.all fun q => r.avoids q) = true := by
  decide +kernel

theorem upperRuns_avoid_sequences :
    (upperRuns.all fun r => upperSequences.all fun p => r.avoids ⟨p.1, p.1, 1, 0⟩) = true := by
  decide +kernel

theorem upperChar_of_mem_sequence :
    ∀ p ∈ upperSequences, ∀ n ∈ p.2, upperChar (Char.ofNat n) = [Char.ofNat n] := by
  decide +kernel

/-! ### Characters and texts -/

/-- A character that no entry of the table is about stays. -/
theorem upperChar_of_not_mem {c : Char} (hsequences : ∀ p ∈ upperSequences, p.1 ≠ c.toNat)
    (hruns : ∀ q ∈ upperRuns, q.image? c.toNat = none) : upperChar c = [c] := by
  have hlookup : (upperSequences.takeWhile (·.1 ≤ c.toNat)).lookup c.toNat = none := by
    refine List.lookup_eq_none_iff.mpr fun p hp => ?_
    exact bne_iff_ne.mpr (hsequences p (List.takeWhile_subset _ hp)).symm
  have hfind : (upperRuns.takeWhile (·.first ≤ c.toNat)).findSome? (·.image? c.toNat) = none :=
    List.findSome?_eq_none_iff.mpr fun q hq => hruns q (List.takeWhile_subset _ hq)
  rw [upperChar, hlookup, hfind]

/-- What a stretch leads to stays. -/
theorem upperChar_image {r : UpperRun} (hr : r ∈ upperRuns) {n m : Nat}
    (hm : r.image? n = some m) : upperChar (Char.ofNat m) = [Char.ofNat m] := by
  by_cases hvalid : m.isValidChar
  · have hcode : (Char.ofNat m).toNat = m := by
      rw [Char.ofNat, dif_pos hvalid]
      rfl
    refine upperChar_of_not_mem (fun p hp hkey => ?_) fun q hq => ?_
    · have havoid := List.all_eq_true.mp (List.all_eq_true.mp upperRuns_avoid_sequences r hr) p hp
      have himage := UpperRun.image?_of_avoids havoid hm
      simp [UpperRun.image?, hkey, hcode] at himage
    · have havoid := List.all_eq_true.mp (List.all_eq_true.mp upperRuns_avoid r hr) q hq
      rw [hcode]
      exact UpperRun.image?_of_avoids havoid hm
  · have hzero : Char.ofNat m = Char.ofNat 0 := by
      rw [Char.ofNat, dif_neg hvalid]
      rfl
    rw [hzero]
    decide +kernel

theorem upperChar_of_mem_upperChar {c d : Char} (h : d ∈ upperChar c) : upperChar d = [d] := by
  rw [upperChar] at h
  split at h
  · rename_i codes hcodes
    obtain ⟨n, hn, rfl⟩ := List.mem_map.mp h
    obtain ⟨before, after, hsplit, -⟩ := List.lookup_eq_some_iff.mp hcodes
    have hmem : (c.toNat, codes) ∈ upperSequences :=
      List.takeWhile_subset _ (hsplit ▸ List.mem_append_right before List.mem_cons_self)
    exact upperChar_of_mem_sequence _ hmem n hn
  · rename_i hlookup
    split at h
    · rename_i m hm
      obtain ⟨r, hr, hm⟩ := List.exists_of_findSome?_eq_some hm
      obtain rfl := List.mem_singleton.mp h
      exact upperChar_image (List.takeWhile_subset _ hr) hm
    · rename_i hfind
      obtain rfl := List.mem_singleton.mp h
      rw [upperChar, hlookup, hfind]

/-- **An upper case form is in upper case.** -/
theorem upperCase_upperCase (s : String) : upperCase (upperCase s) = upperCase s := by
  have hchar (c : Char) : (upperChar c).flatMap upperChar = upperChar c := by
    rw [List.flatMap_def, List.map_congr_left fun d hd => upperChar_of_mem_upperChar hd,
      ← List.flatMap_def, List.flatMap_singleton']
  rw [upperCase, upperCase, String.toList_ofList, List.flatMap_assoc]
  simp only [hchar]

end Chip8.Text
