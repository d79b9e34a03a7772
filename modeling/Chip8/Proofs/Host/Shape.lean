import Chip8.Host.Sequence

/-!
The extents of nested sequences.  `Value.extents` finds them level by level, over all values of a
level at once; `Value.Shaped` says what they are value by value: a plain element has none, and a
sequence has its length in front of those that all its items have.

* `shaped_of_extents` — extents that are found are those of the value, and at most 64;
* `extents_of_shaped` — extents of a value are found, up to the first zero, below which there is
  nothing left to look at, if there are at most 64 of these.
-/

namespace Chip8.Host.Value

/-- A nested sequence, laid out in rows of equal length all the way down, has these extents. -/
inductive Shaped : Value → List Nat → Prop
  /-- A plain element. -/
  | element {v : Value} : v.items? = none → Shaped v []
  /-- A sequence whose items have the same extents. -/
  | sequence {v : Value} {items : List Value} {shape : List Nat} :
    v.items? = some items → (∀ w ∈ items, Shaped w shape) → Shaped v (items.length :: shape)

/-- The extents up to the first zero. -/
def cut : List Nat → List Nat
  | [] => []
  | n :: rest => if n = 0 then [0] else n :: cut rest

theorem zero_mem_cut {shape : List Nat} : 0 ∈ cut shape ↔ 0 ∈ shape := by
  induction shape with
  | nil => exact Iff.rfl
  | cons n rest ih =>
    rw [cut]
    split
    case isTrue hn => simp [hn]
    case isFalse hn => rw [List.mem_cons, List.mem_cons, ih]

theorem length_cut_le (shape : List Nat) : (cut shape).length ≤ shape.length := by
  induction shape with
  | nil => exact Nat.le_refl 0
  | cons n rest ih =>
    rw [cut]
    split
    · exact Nat.succ_le_succ (Nat.zero_le _)
    · exact Nat.succ_le_succ ih

/-! ### Levels -/

variable {values items : List Value} {n : Nat}

/-- A level of plain elements. -/
theorem level_eq_elements_iff : level values = .elements ↔ ∀ v ∈ values, v.items? = none := by
  rw [← List.filterMap_eq_nil_iff, level]
  split
  case h_1 hrows => simp [hrows]
  case h_2 first rest hrows =>
    rw [hrows]
    split <;> simp

/-- A level of sequences of one length. -/
theorem level_eq_sequences_iff :
    level values = .sequences n items ↔
      values ≠ [] ∧ (∀ v ∈ values, ∃ row, v.items? = some row ∧ row.length = n) ∧
        items = (values.filterMap items?).flatten := by
  -- no value is an element if the rows are as many as the values
  have hsome : (∀ v ∈ values, (items? v).isSome) ↔
      (values.filterMap items?).length = values.length :=
    List.filterMap_length_eq_length.symm
  have hmem {row : List Value} : row ∈ values.filterMap items? ↔
      ∃ v ∈ values, v.items? = some row := List.mem_filterMap
  rw [level]
  split
  case h_1 hrows =>
    constructor
    · intro h
      cases h
    · rintro ⟨hv, h, -⟩
      obtain ⟨v, hv⟩ := List.exists_mem_of_ne_nil values hv
      obtain ⟨row, hrow, -⟩ := h v hv
      have hin := hmem.mpr ⟨v, hv, hrow⟩
      rw [hrows] at hin
      cases hin
  case h_2 first rest hrows =>
    rw [hrows] at hsome hmem ⊢
    have hall : (rest.all fun row => row.length == first.length) = true ↔
        ∀ row ∈ rest, row.length = first.length := by simp
    constructor
    · intro h
      split at h
      case isTrue hc =>
        obtain ⟨hcount, hlengths⟩ := hc
        obtain ⟨rfl, rfl⟩ := Level.sequences.inj h
        refine ⟨fun hnil => ?_, fun v hv => ?_, rfl⟩
        · rw [hnil] at hcount
          cases hcount
        · obtain ⟨row, hrow⟩ := Option.isSome_iff_exists.mp (hsome.mpr hcount v hv)
          refine ⟨row, hrow, ?_⟩
          rcases List.mem_cons.mp (hmem.mpr ⟨v, hv, hrow⟩) with rfl | hin
          · rfl
          · exact hall.mp hlengths row hin
      case isFalse => cases h
    · rintro ⟨-, hv, rfl⟩
      have hlength : ∀ row ∈ first :: rest, row.length = n := by
        intro row hin
        obtain ⟨v, hvin, hrow⟩ := hmem.mp hin
        obtain ⟨row', hrow', hn⟩ := hv v hvin
        rw [hrow] at hrow'
        exact Option.some.inj hrow' ▸ hn
      have hcount : (first :: rest).length = values.length := by
        refine hsome.mp fun v hvin => ?_
        obtain ⟨row, hrow, -⟩ := hv v hvin
        rw [hrow]
        rfl
      have hfirst := hlength first List.mem_cons_self
      have hrest : ∀ row ∈ rest, row.length = first.length := by
        intro row hin
        rw [hfirst]
        exact hlength row (List.mem_cons_of_mem first hin)
      rw [if_pos ⟨hcount, hall.mpr hrest⟩, hfirst]
      rfl

/-- A level of values that have extents is one of sequences, and the next level has the remaining
extents.  It is empty if the sequences are. -/
theorem level_of_shaped {rest : List Nat} (hv : values ≠ [])
    (h : ∀ v ∈ values, Shaped v (n :: rest)) :
    ∃ items, level values = .sequences n items ∧ (∀ w ∈ items, Shaped w rest) ∧
      (items = [] ↔ n = 0) := by
  have hrows : ∀ v ∈ values, ∃ row, v.items? = some row ∧ row.length = n ∧
      ∀ w ∈ row, Shaped w rest := by
    intro v hvin
    cases h v hvin with
    | sequence hrow hshaped => exact ⟨_, hrow, rfl, hshaped⟩
  have hmem : ∀ row ∈ values.filterMap items?, row.length = n ∧ ∀ w ∈ row, Shaped w rest := by
    intro row hrow
    obtain ⟨v, hvin, hitems⟩ := List.mem_filterMap.mp hrow
    obtain ⟨row', hrow', hshaped⟩ := hrows v hvin
    rw [hitems] at hrow'
    exact Option.some.inj hrow' ▸ hshaped
  refine ⟨(values.filterMap items?).flatten, level_eq_sequences_iff.mpr ⟨hv, fun v hvin => ?_, rfl⟩,
    fun w hw => ?_, ?_⟩
  · obtain ⟨row, hrow, hlength, -⟩ := hrows v hvin
    exact ⟨row, hrow, hlength⟩
  · obtain ⟨row, hrow, hwin⟩ := List.mem_flatten.mp hw
    exact (hmem row hrow).2 w hwin
  · rw [List.flatten_eq_nil_iff]
    constructor
    · intro hnil
      obtain ⟨v, hvin⟩ := List.exists_mem_of_ne_nil values hv
      obtain ⟨row, hrow, hlength, -⟩ := hrows v hvin
      rw [hnil row (List.mem_filterMap.mpr ⟨v, hvin, hrow⟩)] at hlength
      exact hlength.symm
    · intro hn row hrow
      rw [List.eq_nil_iff_length_eq_zero, (hmem row hrow).1, hn]

/-! ### Extents -/

theorem extentsFrom_of_elements (h : level values = .elements) (depth : Nat) :
    extentsFrom depth values = .regular [] := by
  cases depth <;> simp [extentsFrom, h]

theorem extentsFrom_succ_of_sequences (h : level values = .sequences n items) (depth : Nat) :
    extentsFrom (depth + 1) values = (extentsFrom depth items).cons n := by
  rw [extentsFrom.eq_def, h]

theorem extentsFrom_of_mixed (h : level values = .mixed) {depth : Nat} {shape : List Nat} :
    extentsFrom depth values ≠ .regular shape := by
  cases depth <;> simp [extentsFrom, h]

theorem Extents.cons_eq_regular {e : Extents} {shape : List Nat} (h : e.cons n = .regular shape) :
    ∃ rest, e = .regular rest ∧ shape = n :: rest := by
  cases e with
  | regular rest => exact ⟨rest, rfl, (Extents.regular.inj h).symm⟩
  | ragged rest => cases h
  | tooDeep => cases h

theorem shaped_of_extentsFrom {depth : Nat} {shape : List Nat}
    (h : extentsFrom depth values = .regular shape) :
    shape.length ≤ depth ∧ ∀ v ∈ values, Shaped v shape := by
  -- one level is looked at for each extent
  induction depth generalizing values shape with
  | zero =>
    rcases hl : level values with - | ⟨n, items⟩ | -
    · rw [extentsFrom_of_elements hl] at h
      obtain rfl := Extents.regular.inj h
      exact ⟨Nat.le_refl 0, fun v hv => .element (level_eq_elements_iff.mp hl v hv)⟩
    · rw [extentsFrom.eq_def, hl] at h
      cases h
    · exact absurd h (extentsFrom_of_mixed hl)
  | succ depth ih =>
    rcases hl : level values with - | ⟨n, items⟩ | -
    · rw [extentsFrom_of_elements hl] at h
      obtain rfl := Extents.regular.inj h
      exact ⟨Nat.zero_le _, fun v hv => .element (level_eq_elements_iff.mp hl v hv)⟩
    · rw [extentsFrom_succ_of_sequences hl] at h
      obtain ⟨rest, hrest, rfl⟩ := Extents.cons_eq_regular h
      obtain ⟨hlength, hshaped⟩ := ih hrest
      obtain ⟨-, hrows, rfl⟩ := level_eq_sequences_iff.mp hl
      refine ⟨Nat.succ_le_succ hlength, fun v hv => ?_⟩
      obtain ⟨row, hrow, rfl⟩ := hrows v hv
      refine .sequence hrow fun w hw => hshaped w ?_
      exact List.mem_flatten.mpr ⟨row, List.mem_filterMap.mpr ⟨v, hv, hrow⟩, hw⟩
    · exact absurd h (extentsFrom_of_mixed hl)

theorem extentsFrom_of_shaped {depth : Nat} {shape : List Nat} (hv : values ≠ [])
    (h : ∀ v ∈ values, Shaped v shape) (hd : (cut shape).length ≤ depth) :
    extentsFrom depth values = .regular (cut shape) := by
  -- values of one shape have their items on the next level, and these share the rest of it
  induction shape generalizing values depth with
  | nil =>
    refine extentsFrom_of_elements (level_eq_elements_iff.mpr fun v hvin => ?_) depth
    cases h v hvin with
    | element hnone => exact hnone
  | cons n rest ih =>
    obtain ⟨items, hl, hitems, hempty⟩ := level_of_shaped hv h
    cases depth with
    | zero =>
      rw [cut] at hd
      split at hd <;> cases hd
    | succ depth =>
      rw [extentsFrom_succ_of_sequences hl]
      rw [cut] at hd ⊢
      by_cases hn : n = 0
      · -- rows of no length leave no next level
        have helements : level [] = .elements := rfl
        rw [if_pos hn, hempty.mpr hn, extentsFrom_of_elements helements, hn]
        rfl
      · rw [if_neg hn] at hd ⊢
        rw [ih (fun hnil => hn (hempty.mp hnil)) hitems (Nat.le_of_succ_le_succ hd)]
        rfl

/-- Extents that are found are those of the value. -/
theorem shaped_of_extents {v : Value} {shape : List Nat} (h : v.extents = .regular shape) :
    Shaped v shape ∧ shape.length ≤ maxExtents := by
  obtain ⟨hlength, hshaped⟩ := shaped_of_extentsFrom h
  exact ⟨hshaped v List.mem_cons_self, hlength⟩

/-- The extents of a value are found, up to the first zero. -/
theorem extents_of_shaped {v : Value} {shape : List Nat} (h : Shaped v shape)
    (hlength : (cut shape).length ≤ maxExtents) : v.extents = .regular (cut shape) := by
  refine extentsFrom_of_shaped (List.cons_ne_nil v []) (fun w hw => ?_) hlength
  rw [List.mem_singleton.mp hw]
  exact h

/-! ### Single rows -/

/-- A sequence of plain elements has its length as its only extent. -/
theorem extents_of_row {v : Value} (hitems : v.items? = some items)
    (h : ∀ w ∈ items, w.items? = none) : v.extents = .regular [items.length] := by
  have hcut : cut [items.length] = [items.length] := by
    rw [cut]
    split
    case isTrue hn => rw [hn]
    case isFalse => rfl
  have hshaped : Shaped v [items.length] := .sequence hitems fun w hw => .element (h w hw)
  have hone : (cut [items.length]).length ≤ maxExtents := by
    rw [hcut, List.length_singleton]
    decide
  rw [extents_of_shaped hshaped hone, hcut]

theorem row_of_extents {v : Value} {shape : List Nat} (h : v.extents = .regular shape)
    (hlength : shape.length = 1) :
    ∃ items, v.items? = some items ∧ shape = [items.length] ∧ ∀ w ∈ items, w.items? = none := by
  obtain ⟨hshaped, -⟩ := shaped_of_extents h
  cases hshaped with
  | element => cases hlength
  | @sequence v items rest hitems hw =>
    obtain rfl : rest = [] := List.eq_nil_of_length_eq_zero (Nat.succ.inj hlength)
    refine ⟨items, hitems, rfl, fun w hwin => ?_⟩
    cases hw w hwin with
    | element hnone => exact hnone

end Chip8.Host.Value
