import Chip8.Proofs.Host.Row

/-!
Which values are programs.  `Value.programBytes` reads a value as an array and looks at the extents
and at the storage type of its elements; here the values that pass are described by what they are:

* `Argument` — what a host may hand over: a buffer, plain values in lists and tuples nested in any
  way, a number with a storage type, or an array, whose items may be objects of any kind;
* `Spells` — the bytes a value stands for, with a rule for each way to be a program.

Main result: `programBytes_eq_ok_iff`.  An argument is read as bytes exactly if it spells them, and any
other argument is refused for its value (`programBytes_of_not_spells`).
-/

namespace Chip8

/-- The cause is a value that the call has no use for, though it takes others of its kind. -/
def Error.isValueError : Error → Bool
  | notADigit _ | notFlat _ _ | ragged _ | tooDeep _ | notBytes | unknownLevel _ | negativeLimit
  | notHexadecimal _ => true
  | _ => false

namespace Host.Value

/-! ### Arguments and programs -/

/-- What a host may hand over as a program. -/
inductive Argument : Value → Prop
  | buffer (kind : Buffer) (data : List UInt8) : Argument (.buffer kind data)
  | plain {v : Value} : Plain v → Argument v
  | sized (place : Place) (type : ElementType) (n : Number) : Argument (.sized place type n)
  | array {type : ElementType} {shape : List Nat} {content : Value} :
    Filled type shape content → Argument (.array type content)

/-- The array of the integers that some bytes are. -/
def ofBytes (type : ElementType) (bytes : List UInt8) : Value :=
  .array type (.list (bytes.map fun b => .int b.toNat))

/-- The bytes of the program a value is. -/
inductive Spells : Value → List UInt8 → Prop
  /-- A buffer is taken byte for byte. -/
  | buffer (kind : Buffer) (data : List UInt8) : Spells (.buffer kind data) data
  /-- An array without elements. -/
  | nothing {v : Value} {shape : List Nat} : (∀ kind data, v ≠ .buffer kind data) →
    Shaped v shape → 0 ∈ shape → shape.length ≤ maxExtents → Spells v []
  /-- A list or tuple of integers between 0 and 255, and truth values among them. -/
  | row {v : Value} {items : List Value} {bytes : List UInt8} : v = .list items ∨ v = .tuple items →
    List.Forall₂ Denotes items bytes → (∃ i, .int i ∈ items) → Spells v bytes
  /-- An array of integers between 0 and 255. -/
  | array {type : ElementType} (bytes : List UInt8) : type.isInteger = true →
    Spells (ofBytes type bytes) bytes

/-! ### Acceptance -/

section ArrayBytes

variable {v : Value} {shape : List Nat} {bytes : List UInt8}

theorem arrayBytes_of_zero_mem (h : v.extents = .regular shape) (hzero : 0 ∈ shape) :
    v.arrayBytes = .ok [] := by
  rw [arrayBytes, h]
  exact if_pos (List.contains_iff_mem.mpr hzero)

theorem arrayBytes_of_zero_not_mem (h : v.extents = .regular shape) (hzero : 0 ∉ shape) :
    v.arrayBytes =
      if shape.length = 1 ∧ (sharedType v.elements).isInteger then
        match rowBytes? v.elements with
        | some bytes => .ok bytes
        | none => .error .notBytes
      else .error (.notFlat (sharedType v.elements) shape) := by
  rw [arrayBytes, h]
  exact if_neg fun hc => hzero (List.contains_iff_mem.mp hc)

/-- What is read as bytes is a single row of integers, or has no elements. -/
theorem exists_shape_of_arrayBytes (h : v.arrayBytes = .ok bytes) :
    ∃ shape, v.extents = .regular shape ∧
      (0 ∈ shape ∧ bytes = [] ∨
        0 ∉ shape ∧ shape.length = 1 ∧ (sharedType v.elements).isInteger = true ∧
          rowBytes? v.elements = some bytes) := by
  rcases hv : v.extents with shape | shape | -
  · refine ⟨shape, rfl, ?_⟩
    by_cases hzero : 0 ∈ shape
    · rw [arrayBytes_of_zero_mem hv hzero] at h
      exact .inl ⟨hzero, (Except.ok.inj h).symm⟩
    · rw [arrayBytes_of_zero_not_mem hv hzero] at h
      split at h
      case isTrue hflat =>
        split at h
        case h_1 row hrow =>
          obtain rfl := Except.ok.inj h
          exact .inr ⟨hzero, hflat.1, hflat.2, hrow⟩
        case h_2 => cases h
      case isFalse => cases h
  · rw [arrayBytes, hv] at h
    cases h
  · rw [arrayBytes, hv] at h
    cases h

end ArrayBytes

/-- A value that is not read as bytes is refused for its value. -/
theorem arrayBytes_error {v : Value} {e : Error} (h : v.arrayBytes = .error e) :
    e.isValueError = true := by
  rw [arrayBytes] at h
  split at h
  · rw [← Except.error.inj h]
    rfl
  · rw [← Except.error.inj h]
    rfl
  · dsimp only at h
    split at h
    · cases h
    · split at h
      · split at h
        · cases h
        · rw [← Except.error.inj h]
          rfl
      · rw [← Except.error.inj h]
        rfl

/-! ### Programs and nothing else -/

section Programs

variable {v : Value} {bytes : List UInt8}

theorem elements_of_row {items : List Value} (hv : v = .list items ∨ v = .tuple items)
    (hplain : ∀ w ∈ items, Plain w) (hnone : ∀ w ∈ items, w.items? = none) : v.elements = items := by
  rcases hv with rfl | rfl
  · rw [elements, elementsOf_of_plain hplain hnone]
  · rw [elements, elementsOf_of_plain hplain hnone]

/-- A row of plain values is read as bytes only if it spells them. -/
theorem spells_of_row {items : List Value} (hv : v = .list items ∨ v = .tuple items)
    (hplain : ∀ w ∈ items, Plain w) (hnone : ∀ w ∈ items, w.items? = none)
    (ht : (sharedType v.elements).isInteger = true) (hrow : rowBytes? v.elements = some bytes) :
    Spells v bytes := by
  rw [elements_of_row hv hplain hnone] at ht hrow
  have hdenotes := (rowBytes?_of_plain hplain).mp hrow
  exact .row hv hdenotes ((isInteger_sharedType_iff hdenotes).mp ht)

/-- A row of an array is read as bytes only if it is one of integers. -/
theorem spells_of_cells {type : ElementType} {cells : List Value} {shape : List Nat}
    (hfilled : ∀ c ∈ cells, Filled type shape c) (hne : cells ≠ [])
    (hnone : ∀ c ∈ cells, (array type c).items? = none)
    (ht : (sharedType (array type (.list cells)).elements).isInteger = true)
    (hrow : rowBytes? (array type (.list cells)).elements = some bytes) :
    Spells (.array type (.list cells)) bytes := by
  have hcell : ∀ c ∈ cells, Cell type c := by
    intro c hc
    cases hfilled c hc with
    | cell h => exact h
    | row => cases hnone _ hc
  have helements : (array type (.list cells)).elements = contentElementsOf type cells := by
    rw [elements, contentElements]
  rw [helements, sharedType_contentElementsOf hne hnone] at ht
  rw [helements, rowBytes?_contentElementsOf ht hcell] at hrow
  subst hrow
  exact .array bytes ht

theorem spells_of_arrayBytes (hv : Argument v) (hb : ∀ kind data, v ≠ .buffer kind data)
    (h : v.arrayBytes = .ok bytes) : Spells v bytes := by
  obtain ⟨shape, hext, ⟨hzero, rfl⟩ | ⟨hzero, hlength, ht, hrow⟩⟩ := exists_shape_of_arrayBytes h
  · obtain ⟨hshaped, hle⟩ := shaped_of_extents hext
    exact .nothing hb hshaped hzero hle
  · obtain ⟨items, hitems, rfl, hnone⟩ := row_of_extents hext hlength
    -- a single row: only lists, tuples and arrays have one
    cases hv with
    | buffer kind data => exact absurd rfl (hb kind data)
    | sized place type n => cases hitems
    | plain hplain =>
      cases hplain with
      | null | number n | text s | table entries => cases hitems
      | list hitem =>
        obtain rfl := Option.some.inj hitems
        exact spells_of_row (.inl rfl) hitem hnone ht hrow
      | tuple hitem =>
        obtain rfl := Option.some.inj hitems
        exact spells_of_row (.inr rfl) hitem hnone ht hrow
    | @array type _ content hfilled =>
      cases hfilled with
      | cell hcell => cases hcell.items?.symm.trans hitems
      | @row cells shape hfilled =>
        obtain rfl := Option.some.inj hitems
        refine spells_of_cells hfilled (fun hnil => hzero ?_) (fun c hc => ?_) ht hrow
        · rw [hnil]
          exact List.mem_cons_self
        · exact hnone _ (List.mem_map_of_mem hc)

/-- A row of integers between 0 and 255 is read as bytes. -/
theorem arrayBytes_of_row {items : List Value} (hitems : v.items? = some items)
    (hnone : ∀ w ∈ items, w.items? = none) (hne : items ≠ [])
    (ht : (sharedType v.elements).isInteger = true) (hrow : rowBytes? v.elements = some bytes) :
    v.arrayBytes = .ok bytes := by
  have hzero : 0 ∉ [items.length] := by
    rw [List.mem_singleton, eq_comm, List.length_eq_zero_iff]
    exact hne
  rw [arrayBytes_of_zero_not_mem (extents_of_row hitems hnone) hzero, if_pos ⟨rfl, ht⟩, hrow]

theorem arrayBytes_ofBytes {type : ElementType} (ht : type.isInteger = true)
    (bytes : List UInt8) : (ofBytes type bytes).arrayBytes = .ok bytes := by
  have hcell : ∀ c ∈ bytes.map fun (b : UInt8) => int b.toNat, Cell type c := by
    intro c hc
    obtain ⟨b, -, rfl⟩ := List.mem_map.mp hc
    exact cell_int ht _
  have hnone : ∀ w ∈ (bytes.map fun (b : UInt8) => int b.toNat).map (array type),
      w.items? = none := by
    intro w hw
    obtain ⟨c, hc, rfl⟩ := List.mem_map.mp hw
    exact (hcell c hc).items?
  have helements : (ofBytes type bytes).elements =
      contentElementsOf type (bytes.map fun b => .int b.toNat) := by
    rw [ofBytes, elements, contentElements]
  by_cases hne : bytes = []
  · subst hne
    exact arrayBytes_of_zero_mem (extents_of_row (v := ofBytes type []) rfl hnone) List.mem_cons_self
  · refine arrayBytes_of_row (v := ofBytes type bytes) rfl hnone (by simpa using hne) ?_ ?_
    · rw [helements, sharedType_contentElementsOf (by simpa using hne) fun c hc => (hcell c hc).items?]
      exact ht
    · rw [helements]
      exact (rowBytes?_contentElementsOf ht hcell).mpr rfl

theorem arrayBytes_of_spells (hb : ∀ kind data, v ≠ .buffer kind data) (h : Spells v bytes) :
    v.arrayBytes = .ok bytes := by
  cases h with
  | buffer kind _ => exact absurd rfl (hb kind _)
  | nothing _ hshaped hzero hle =>
    exact arrayBytes_of_zero_mem (extents_of_shaped hshaped (Nat.le_trans (length_cut_le _) hle))
      (zero_mem_cut.mpr hzero)
  | @row _ items _ hform hdenotes hint =>
    have hplain : ∀ w ∈ items, Plain w := fun w hw => (plain_of_denotes hdenotes w hw).1
    have hnone : ∀ w ∈ items, w.items? = none := fun w hw => (plain_of_denotes hdenotes w hw).2
    have hitems : v.items? = some items := by rcases hform with rfl | rfl <;> rfl
    have helements : v.elements = items := elements_of_row hform hplain hnone
    obtain ⟨i, hi⟩ := hint
    refine arrayBytes_of_row hitems hnone (List.ne_nil_of_mem hi) ?_ ?_
    · rw [helements]
      exact (isInteger_sharedType_iff hdenotes).mpr ⟨i, hi⟩
    · rw [helements]
      exact (rowBytes?_of_plain hplain).mpr hdenotes
  | array bytes ht => exact arrayBytes_ofBytes ht bytes

theorem programBytes_of_ne_buffer (hb : ∀ kind data, v ≠ .buffer kind data) :
    v.programBytes = v.arrayBytes := by
  cases v with
  | buffer kind data => exact absurd rfl (hb kind data)
  | _ => rfl

/-- **Programs and nothing else.**  An argument is read as bytes exactly if it spells them. -/
theorem programBytes_eq_ok_iff (hv : Argument v) : v.programBytes = .ok bytes ↔ Spells v bytes := by
  by_cases hb : ∃ kind data, v = .buffer kind data
  · obtain ⟨kind, data, rfl⟩ := hb
    constructor
    · intro h
      obtain rfl := Except.ok.inj h
      exact .buffer kind data
    · intro h
      cases h with
      | buffer => rfl
      | nothing hb => exact absurd rfl (hb kind data)
      | row hform => rcases hform with hform | hform <;> cases hform
  · have hb' : ∀ kind data, v ≠ .buffer kind data := fun kind data he => hb ⟨kind, data, he⟩
    rw [programBytes_of_ne_buffer hb']
    exact ⟨spells_of_arrayBytes hv hb', arrayBytes_of_spells hb'⟩

/-- Any other argument is refused for its value. -/
theorem programBytes_of_not_spells (hv : Argument v) (h : ∀ bytes, ¬Spells v bytes) :
    ∃ e, v.programBytes = .error e ∧ e.isValueError = true := by
  rcases hp : v.programBytes with e | bytes
  · have hb : ∀ kind data, v ≠ .buffer kind data := by
      rintro kind data rfl
      cases hp
    rw [programBytes_of_ne_buffer hb] at hp
    exact ⟨e, rfl, arrayBytes_error hp⟩
  · exact absurd ((programBytes_eq_ok_iff hv).mp hp) (h bytes)

/-- The lists `[1, 2]` and `[3]` can be the items of an array, which has one extent then. -/
example :
    let v := array .object (.list [.boxed (.list [.int 1, .int 2]), .boxed (.list [.int 3])])
    Argument v ∧ v.programBytes = .error (.notFlat .object [2]) := by
  refine ⟨.array (.row fun c hc => .cell ?_), rfl⟩
  rcases List.mem_pair.mp hc with rfl | rfl <;> rfl

end Programs

end Host.Value

end Chip8
