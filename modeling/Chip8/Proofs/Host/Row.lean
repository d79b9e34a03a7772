import Chip8.Host.Program
import Chip8.Proofs.Memory
import Chip8.Proofs.Host.Shape
import Mathlib.Data.List.Forall2

/-!
Rows of elements and the bytes they are.  `Value.elements` takes a value apart, `sharedType` finds
the storage type its elements share, and `rowBytes?` turns the elements into bytes if they are that.

* `Plain` and `Filled` — the values that a host writes as nested sequences, and the contents of its
  arrays;
* `Denotes` — the elements that are bytes: integers between 0 and 255, and truth values;
* `isInteger_sharedType_iff` — a row of bytes counts as a row of integers exactly if one of them is
  not a truth value;
* `sharedType_contentElementsOf`, `rowBytes?_contentElementsOf` — the same for arrays, where the
  storage type is that of the array.
-/

namespace Chip8.Host.Value

/-! ### Nested sequences and arrays -/

/-- A value made of nothing, numbers, text and tables, in lists and tuples. -/
inductive Plain : Value → Prop
  | null : Plain .null
  | number (n : Number) : Plain (.number n)
  | text (s : String) : Plain (.text s)
  | table (entries : List (String × Value)) : Plain (.table entries)
  | list {items : List Value} : (∀ v ∈ items, Plain v) → Plain (.list items)
  | tuple {items : List Value} : (∀ v ∈ items, Plain v) → Plain (.tuple items)

/-- What an array of a storage type has in a cell.  An array of objects has anything that is no
sequence, and boxed sequences. -/
def Cell : ElementType → Value → Prop
  | .boolean, .number (.bool _) => True
  | .signed _, .number (.int _) => True
  | .unsigned _, .number (.int _) => True
  | .floating _, .number (.real _) => True
  | .object, v => v.items? = none
  | _, _ => False

/-- The content of an array with a storage type and extents. -/
inductive Filled (type : ElementType) : List Nat → Value → Prop
  | cell {v : Value} : Cell type v → Filled type [] v
  | row {items : List Value} {shape : List Nat} :
    (∀ v ∈ items, Filled type shape v) → Filled type (items.length :: shape) (.list items)

/-! ### Bytes of a row -/

/-- A number denotes a byte; a truth value denotes zero or one. -/
inductive Denotes : Value → UInt8 → Prop
  | int (b : UInt8) : Denotes (.int b.toNat) b
  | bool (b : Bool) : Denotes (.bool b) (if b then 1 else 0)

theorem byte?_eq_some_iff (i : Int) (b : UInt8) : byte? i = some b ↔ i = b.toNat := by
  have hb := b.toNat_lt
  rw [byte?]
  constructor
  · intro h
    split at h
    case isTrue hi =>
      obtain rfl := Option.some.inj h
      have hto : (UInt8.ofInt i).toNat = (i % 2 ^ 8).toNat % 2 ^ 8 := UInt8.toNat_ofNat'
      omega
    case isFalse => cases h
  · rintro rfl
    rw [if_pos (by omega), ofInt_toNat_byte]

theorem rowBytes?_eq_some_iff {row : List Value} {bytes : List UInt8} :
    rowBytes? row = some bytes ↔
      List.Forall₂ (fun v (b : UInt8) => v.elementInt? = some (b.toNat : Int)) row bytes := by
  induction row generalizing bytes with
  | nil =>
    rw [List.forall₂_nil_left_iff]
    exact ⟨fun h => (Option.some.inj h).symm, fun h => h ▸ rfl⟩
  | cons v rest ih =>
    have hcons : rowBytes? (v :: rest) = (v.elementInt?.bind byte?).bind fun b =>
        (rowBytes? rest).bind fun bs => some (b :: bs) := List.mapM_cons
    rw [hcons, List.forall₂_cons_left_iff]
    constructor
    · intro h
      obtain ⟨b, hb, h⟩ := Option.bind_eq_some_iff.mp h
      obtain ⟨bs, hbs, h⟩ := Option.bind_eq_some_iff.mp h
      obtain ⟨i, hi, hbyte⟩ := Option.bind_eq_some_iff.mp hb
      rw [byte?_eq_some_iff] at hbyte
      exact ⟨b, bs, hi.trans (congrArg some hbyte), ih.mp hbs, (Option.some.inj h).symm⟩
    · rintro ⟨b, bs, hv, hrest, rfl⟩
      rw [hv, Option.bind_some, (byte?_eq_some_iff _ b).mpr rfl, ih.mpr hrest]
      rfl

theorem Denotes.elementInt? {v : Value} {b : UInt8} (h : Denotes v b) :
    v.elementInt? = some (b.toNat : Int) := by
  cases h with
  | int b => rfl
  | bool b => cases b <;> rfl

theorem denotes_of_elementInt? {v : Value} {b : UInt8} (hv : Plain v)
    (h : v.elementInt? = some (b.toNat : Int)) : Denotes v b := by
  cases hv with
  | number n =>
    cases n with
    | bool t =>
      -- a truth value is the byte of its integer
      have hbyte : b = if t then 1 else 0 := by
        apply UInt8.toNat_inj.mp
        have hb := Option.some.inj h
        cases t <;> exact Int.natCast_inj.mp hb.symm
      rw [hbyte]
      exact .bool t
    | int i =>
      rw [Option.some.inj h]
      exact .int b
    | real x => cases h
  | null | text s | table entries | list hitems | tuple hitems => cases h

/-- What denotes a byte is a plain element. -/
theorem plain_of_denotes {items : List Value} {bytes : List UInt8}
    (h : List.Forall₂ Denotes items bytes) : ∀ w ∈ items, Plain w ∧ w.items? = none := by
  induction h with
  | nil => exact fun w hw => absurd hw List.not_mem_nil
  | cons hfirst _ ih =>
    intro w hw
    rcases List.mem_cons.mp hw with rfl | hw
    · cases hfirst <;> exact ⟨.number _, rfl⟩
    · exact ih w hw

/-! ### The storage type of a row -/

theorem Denotes.elementType {v : Value} {b : UInt8} (h : Denotes v b) :
    (∃ i, v = .int i) ∧ v.elementType = .signed 64 ∨
      (∀ i, v ≠ .int i) ∧ v.elementType = .boolean := by
  cases h with
  | int b =>
    have hb := b.toNat_lt
    exact .inl ⟨⟨_, rfl⟩, if_pos (by omega)⟩
  | bool b => exact .inr ⟨fun i hi => (nomatch hi), rfl⟩

/-- Joined with the types of a row of bytes, a storage type for integers stays what it is, and that
of truth values becomes one if there is an integer in the row. -/
theorem foldl_join_of_denotes {row : List Value} {bytes : List UInt8} {t : ElementType}
    (ht : t = .signed 64 ∨ t = .boolean) (h : List.Forall₂ Denotes row bytes) :
    let shared := row.foldl (fun (t : ElementType) v => t.join v.elementType) t
    (t = .signed 64 ∨ ∃ i, .int i ∈ row) ∧ shared = .signed 64 ∨
      (t = .boolean ∧ ∀ i, .int i ∉ row) ∧ shared = .boolean := by
  induction h generalizing t with
  | nil =>
    rcases ht with ht | ht
    · exact .inl ⟨.inl ht, ht⟩
    · exact .inr ⟨⟨ht, fun i => List.not_mem_nil⟩, ht⟩
  | @cons v b rest bytes hv hrest ih =>
    rcases hv.elementType with ⟨⟨i, hi⟩, htype⟩ | ⟨hne, htype⟩
    · have hjoin : t.join v.elementType = .signed 64 := by
        rw [htype]
        rcases ht with rfl | rfl <;> rfl
      rw [List.foldl_cons, hjoin]
      rcases ih (.inl rfl) with ⟨-, hshared⟩ | ⟨⟨habsurd, -⟩, -⟩
      · exact .inl ⟨.inr ⟨i, hi ▸ List.mem_cons_self⟩, hshared⟩
      · cases habsurd
    · have hjoin : t.join v.elementType = t := by
        rw [htype]
        rcases ht with rfl | rfl <;> rfl
      have hmem (i : Int) : .int i ∈ v :: rest ↔ .int i ∈ rest := by
        rw [List.mem_cons]
        exact or_iff_right fun h => hne i h.symm
      rw [List.foldl_cons, hjoin]
      simp only [hmem]
      exact ih ht

/-- A row of bytes has a storage type for integers exactly if an integer is among them. -/
theorem isInteger_sharedType_iff {row : List Value} {bytes : List UInt8}
    (h : List.Forall₂ Denotes row bytes) :
    (sharedType row).isInteger = true ↔ ∃ i, .int i ∈ row := by
  cases h with
  | nil => simp [sharedType, ElementType.isInteger]
  | @cons v b rest bytes hv hrest =>
    have hshared : sharedType (v :: rest) =
      rest.foldl (fun (t : ElementType) w => t.join w.elementType) v.elementType := rfl
    rcases hv.elementType with ⟨⟨i, hi⟩, htype⟩ | ⟨hne, htype⟩
    · have hin : ∃ i, .int i ∈ v :: rest := ⟨i, hi ▸ List.mem_cons_self⟩
      rcases foldl_join_of_denotes (.inl htype) hrest with ⟨-, hjoin⟩ | ⟨⟨habsurd, -⟩, -⟩
      · rw [hshared, hjoin]
        exact iff_of_true rfl hin
      · rw [htype] at habsurd
        cases habsurd
    · rcases foldl_join_of_denotes (.inr htype) hrest with ⟨htaken | ⟨i, hi⟩, hjoin⟩ | ⟨⟨-, hnone⟩, hjoin⟩
      · rw [htype] at htaken
        cases htaken
      · rw [hshared, hjoin]
        exact iff_of_true rfl ⟨i, List.mem_cons_of_mem v hi⟩
      · rw [hshared, hjoin]
        refine iff_of_false (fun h => nomatch h) fun ⟨i, hi⟩ => ?_
        rcases List.mem_cons.mp hi with hi | hi
        · exact hne i hi.symm
        · exact hnone i hi

/-! ### The elements of a row -/

/-- A plain value that is no sequence is its own only element. -/
theorem elements_of_plain {v : Value} (hv : Plain v) (h : v.items? = none) : v.elements = [v] := by
  cases hv with
  | null | number n | text s | table entries => simp only [elements]
  | list hitems | tuple hitems => cases h

theorem elementsOf_of_plain {items : List Value} (hv : ∀ v ∈ items, Plain v)
    (h : ∀ v ∈ items, v.items? = none) : elementsOf items = items := by
  induction items with
  | nil => rw [elementsOf]
  | cons v rest ih =>
    rw [elementsOf, elements_of_plain (hv v List.mem_cons_self) (h v List.mem_cons_self),
      ih (fun w hw => hv w (List.mem_cons_of_mem v hw)) fun w hw => h w (List.mem_cons_of_mem v hw)]
    rfl

/-- Rows of elements that stand for the same integers are the same bytes. -/
theorem rowBytes?_congr {row row' : List Value}
    (h : row.map Value.elementInt? = row'.map Value.elementInt?) : rowBytes? row = rowBytes? row' := by
  have hmap (row : List Value) :
      rowBytes? row = (row.map Value.elementInt?).mapM fun (i : Option Int) => i.bind byte? := by
    rw [List.mapM_map]
    rfl
  rw [hmap, hmap, h]

theorem rowBytes?_of_plain {items : List Value} {bytes : List UInt8} (hv : ∀ v ∈ items, Plain v) :
    rowBytes? items = some bytes ↔ List.Forall₂ Denotes items bytes := by
  rw [rowBytes?_eq_some_iff]
  constructor
  · intro h
    exact ((List.forall₂_and_left items bytes).mpr ⟨hv, h⟩).imp fun v b hvb => denotes_of_elementInt? hvb.1 hvb.2
  · intro h
    exact h.imp fun v b hvb => hvb.elementInt?

/-! ### The elements of an array -/

section Array

variable {type : ElementType} {cells : List Value}

theorem join_self (t : ElementType) : t.join t = t := by
  cases t <;> simp [ElementType.join, ElementType.joinNumbers, ElementType.textLength]

/-- A cell is not a row. -/
theorem Cell.items? {c : Value} (h : Cell type c) : (array type c).items? = none := by
  cases c with
  | list items => cases type <;> cases h
  | _ => rfl

/-- A cell that is no row is one element, of the storage type of the array. -/
theorem contentElements_of_cell {c : Value} (h : (array type c).items? = none) :
    ∃ w, contentElements type c = [w] ∧ w.elementType = type := by
  cases c with
  | list items => cases h
  | number n => exact ⟨.sized .host type n, by simp only [contentElements], rfl⟩
  | _ => exact ⟨.array type .null, by simp only [contentElements], rfl⟩

theorem elementType_contentElementsOf (h : ∀ c ∈ cells, (array type c).items? = none) :
    ∀ w ∈ contentElementsOf type cells, w.elementType = type := by
  induction cells with
  | nil => simp [contentElementsOf]
  | cons c rest ih =>
    obtain ⟨first, hfirst, htype⟩ := contentElements_of_cell (h c List.mem_cons_self)
    rw [contentElementsOf, hfirst]
    intro w hw
    rcases List.mem_cons.mp hw with rfl | hw
    · exact htype
    · exact ih (fun d hd => h d (List.mem_cons_of_mem c hd)) w hw

/-- Elements of one storage type share it. -/
theorem sharedType_of_forall {row : List Value} (hne : row ≠ [])
    (h : ∀ w ∈ row, w.elementType = type) : sharedType row = type := by
  have hfold {rest : List Value} (hrest : ∀ w ∈ rest, w.elementType = type) :
      rest.foldl (fun (t : ElementType) w => t.join w.elementType) type = type := by
    induction rest with
    | nil => rfl
    | cons w rest ih =>
      rw [List.foldl_cons, hrest w List.mem_cons_self, join_self]
      exact ih fun u hu => hrest u (List.mem_cons_of_mem w hu)
  cases row with
  | nil => exact absurd rfl hne
  | cons w rest =>
    rw [sharedType, h w List.mem_cons_self]
    exact hfold fun u hu => h u (List.mem_cons_of_mem w hu)

theorem sharedType_contentElementsOf (hne : cells ≠ [])
    (h : ∀ c ∈ cells, (array type c).items? = none) :
    sharedType (contentElementsOf type cells) = type := by
  refine sharedType_of_forall ?_ (elementType_contentElementsOf h)
  obtain ⟨c, rest, rfl⟩ := List.exists_cons_of_ne_nil hne
  obtain ⟨first, hfirst, -⟩ := contentElements_of_cell (h c List.mem_cons_self)
  rw [contentElementsOf, hfirst]
  exact List.cons_ne_nil _ _

/-- In an array of integers a cell is an integer. -/
theorem Cell.exists_int (ht : type.isInteger = true) {c : Value} (h : Cell type c) :
    ∃ i, c = .int i := by
  cases type with
  | signed bits | unsigned bits =>
    cases c with
    | number n =>
      cases n with
      | int i => exact ⟨i, rfl⟩
      | bool b | real x => cases h
    | _ => cases h
  | boolean | floating bits | text length | bytes length | object => cases ht

theorem cell_int (ht : type.isInteger = true) (i : Int) : Cell type (.int i) := by
  cases type with
  | signed bits | unsigned bits => exact trivial
  | boolean | floating bits | text length | bytes length | object => cases ht

theorem forall₂_denotes_iff {bytes : List UInt8} (h : ∀ c ∈ cells, ∃ i, c = .int i) :
    List.Forall₂ Denotes cells bytes ↔ cells = bytes.map fun b => .int b.toNat := by
  constructor
  · intro hden
    induction hden with
    | nil => rfl
    | @cons c b rest bytes hcb hrest ih =>
      obtain ⟨i, rfl⟩ := h c List.mem_cons_self
      cases hcb with
      | int b => rw [List.map_cons, ← ih fun d hd => h d (List.mem_cons_of_mem _ hd)]
  · rintro rfl
    rw [List.forall₂_map_left_iff]
    exact List.forall₂_same.mpr fun b _ => .int b

theorem rowBytes?_contentElementsOf (ht : type.isInteger = true) {bytes : List UInt8}
    (h : ∀ c ∈ cells, Cell type c) :
    rowBytes? (contentElementsOf type cells) = some bytes ↔
      cells = bytes.map fun b => .int b.toNat := by
  have hint : ∀ c ∈ cells, ∃ i, c = .int i := fun c hc => (h c hc).exists_int ht
  -- in an array the integers carry its storage type, and are the same integers without it
  have hsame : (contentElementsOf type cells).map Value.elementInt? = cells.map Value.elementInt? := by
    clear h
    induction cells with
    | nil => simp only [contentElementsOf]
    | cons c rest ih =>
      obtain ⟨i, rfl⟩ := hint c List.mem_cons_self
      have hrest := ih fun w hw => hint w (List.mem_cons_of_mem _ hw)
      rw [contentElementsOf, List.map_append, hrest, int, contentElements]
      rfl
  rw [rowBytes?_congr hsame, ← forall₂_denotes_iff hint]
  refine rowBytes?_of_plain fun c hc => ?_
  obtain ⟨i, rfl⟩ := hint c hc
  exact .number _

end Array

end Chip8.Host.Value
