import Chip8.Host.Access
import Chip8.Proofs.Display

/-!
Pixels as a host sets, reads and looks at them.  `Value.IsInt32` is the relation between a value
and the coordinate of 32 bits it is, plain or stored; `Value.Counts` is the relation between a value
and the truth value the machine takes it for.  For such values the host's operations are those of
the grid (`hostPixel_eq`, `hostSetPixel_eq`), so a pixel that was set is read back, no other pixel
changes, and nothing happens off the grid.

Main result: `views_agree`.  A plain integer that does not fit in 32 bits has a truth value but the
machine takes none from it, and the pixel is not set (`setPixel_refused_wide`).
-/

namespace Chip8

namespace Host.Value

/-! ### Coordinates -/

/-- The value is an integer of 32 bits, plain or stored as one. -/
inductive IsInt32 : Value → Int → Prop
  | plain {i : Int} : -2147483648 ≤ i ∧ i ≤ 2147483647 → IsInt32 (.int i) i
  | sized (place : Place) {i : Int} : -2147483648 ≤ i ∧ i ≤ 2147483647 →
    IsInt32 (.sized place (.signed 32) (.int i)) i

theorem IsInt32.coordinate {v : Value} {i : Int} (h : v.IsInt32 i) :
    ∃ c, v.coordinate = .ok c ∧ c.fits = .ok () ∧ c.whole = .ok i := by
  cases h with
  | plain h =>
    refine ⟨.plain i, rfl, ?_, rfl⟩
    rw [Coordinate.fits, int32?, if_pos h]
    rfl
  | sized place h => exact ⟨.sized i, rfl, rfl, rfl⟩

/-! ### Truth values -/

/-- The truth value the machine takes a number for: whether it is other than zero.  A plain integer
must fit in 32 bits, a stored one may be signed or not, and a fraction has single precision. -/
inductive Counts : Value → Bool → Prop
  | bool (b : Bool) : Counts (.bool b) b
  | int {i : Int} : -2147483648 ≤ i ∧ i ≤ 2147483647 → Counts (.int i) (i != 0)
  | real (x : Float) : Counts (.real x) (x.toFloat32 != 0)
  | sizedBool (place : Place) (type : ElementType) (b : Bool) :
    Counts (.sized place type (.bool b)) b
  | sizedInt (place : Place) (type : ElementType) {i : Int} :
    -2147483648 ≤ i ∧ i ≤ 4294967295 → Counts (.sized place type (.int i)) (i != 0)
  | sizedReal (place : Place) (type : ElementType) (x : Float) :
    Counts (.sized place type (.real x)) (x.toFloat32 != 0)

theorem ofInt_bne_zero {i : Int} (h : -2147483648 ≤ i ∧ i ≤ 4294967295) :
    (Int32.ofInt i != 0) = (i != 0) := by
  suffices hzero : Int32.ofInt i = 0 ↔ i = 0 by
    rw [Bool.eq_iff_iff, bne_iff_ne, bne_iff_ne, ne_eq, ne_eq, hzero]
  constructor
  · intro hw
    have hmod : i.bmod Int32.size = 0 := by
      rw [← Int32.toInt_ofInt, hw]
      rfl
    have hdvd : (4294967296 : Int) ∣ i := Int.dvd_of_bmod_eq_zero hmod
    omega
  · rintro rfl
    rfl

theorem truth_int (i : Int) : (Value.int i).truth = (Value.int i).int32.map (· != 0) :=
  rfl

theorem Counts.truth {v : Value} {b : Bool} (h : v.Counts b) : v.truth = .ok b := by
  cases h with
  | bool b => cases b <;> rfl
  | int h =>
    rw [truth_int, Value.int, int32, int32?, if_pos h]
    exact congrArg Except.ok (ofInt_bne_zero (by omega))
  | real x => rfl
  | sizedBool place type b => cases b <;> rfl
  | sizedInt place type h => exact congrArg Except.ok (ofInt_bne_zero h)
  | sizedReal place type x => rfl

end Host.Value

namespace Display

variable {x y : Host.Value} {i j : Int}

theorem hostPixel_eq (d : Display) (hx : x.IsInt32 i) (hy : y.IsInt32 j) :
    d.hostPixel x y = .ok (d.pixelAt i j) := by
  obtain ⟨c, hc, hcfits, hcwhole⟩ := hx.coordinate
  obtain ⟨e, he, hefits, hewhole⟩ := hy.coordinate
  simp only [hostPixel, hc, he, hcfits, hefits, hcwhole, hewhole, bind, Except.bind]

theorem off_of_plainlyOff (hx : x.IsInt32 i) (hy : y.IsInt32 j)
    (h : Host.plainlyOff x y = true) : ¬OnGrid i j := by
  cases hx with
  | plain =>
    cases hy with
    | plain =>
      rw [← isSome_cell?_iff, Bool.not_eq_true, Option.isSome_eq_false_iff]
      exact h
    | sized => cases h
  | sized => cases h

theorem hostSetPixel_of_not_plainlyOff (d : Display) (hx : x.IsInt32 i) (hy : y.IsInt32 j)
    (v : Host.Value) (h : Host.plainlyOff x y = false) :
    d.hostSetPixel x y v = v.truth.map (d.setPixel i j) := by
  obtain ⟨c, hc, hcfits, hcwhole⟩ := hx.coordinate
  obtain ⟨e, he, hefits, hewhole⟩ := hy.coordinate
  cases hv : v.truth <;>
    simp only [hostSetPixel, h, hc, he, hcfits, hefits, hcwhole, hewhole, hv, bind, Except.bind,
      Except.map, Bool.false_eq_true, if_false]

theorem hostSetPixel_of_plainlyOff (d : Display) (v : Host.Value)
    (h : Host.plainlyOff x y = true) : d.hostSetPixel x y v = .ok d := by
  rw [hostSetPixel, if_pos h]

/-- A host sets the pixel that the coordinates name, if they name one. -/
theorem hostSetPixel_eq (d : Display) (hx : x.IsInt32 i) (hy : y.IsInt32 j) {v : Host.Value}
    {b : Bool} (hv : v.Counts b) : d.hostSetPixel x y v = .ok (d.setPixel i j b) := by
  cases h : Host.plainlyOff x y with
  | false => rw [hostSetPixel_of_not_plainlyOff d hx hy v h, hv.truth, Except.map]
  | true => rw [hostSetPixel_of_plainlyOff d v h, setPixel_of_off d (off_of_plainlyOff hx hy h)]

/-- Plain integers off the grid are recognised whatever their size. -/
theorem hostSetPixel_off (d : Display) (v : Host.Value) (h : ¬OnGrid i j) :
    d.hostSetPixel (.int i) (.int j) v = .ok d := by
  refine hostSetPixel_of_plainlyOff d v ?_
  show (cell? i j).isNone = true
  rw [cell?_of_off h, Option.isNone_none]

/-- On the grid the value is looked at, and one that does not fit is refused. -/
theorem hostSetPixel_wide (d : Display) (hx : x.IsInt32 i) (hy : y.IsInt32 j) (h : OnGrid i j)
    {n : Int} (hn : ¬(-2147483648 ≤ n ∧ n ≤ 2147483647)) :
    d.hostSetPixel x y (.int n) = .error .overflow := by
  have hnear : Host.plainlyOff x y = false :=
    Bool.eq_false_iff.mpr fun hoff => off_of_plainlyOff hx hy hoff h
  rw [hostSetPixel_of_not_plainlyOff d hx hy _ hnear, Host.Value.truth_int, Host.Value.int,
    Host.Value.int32, Host.int32?, if_neg hn]
  rfl

/-- A pixel that was set is read back, and no other pixel changes. -/
theorem hostPixel_setPixel (d : Display) (b : Bool) {x' y' : Host.Value} {i' j' : Int}
    (hx : x'.IsInt32 i') (hy : y'.IsInt32 j') :
    (d.setPixel i j b).hostPixel x' y' =
      if i' = i ∧ j' = j ∧ OnGrid i j then .ok b else d.hostPixel x' y' := by
  rw [hostPixel_eq _ hx hy, hostPixel_eq _ hx hy, pixelAt_setPixel]
  simp only [isSome_cell?_iff, apply_ite Except.ok]

/-- **All views of the framebuffer agree.**  A pixel that was set holds the truth value it was set
to, all others stay, and off the grid nothing changes and nothing is lit, so no coordinate wraps or
lands on the edge.  The columns, the row of all pixels, the reading of a pixel and the text show the
same pixels. -/
theorem views_agree (d : Display) :
    (∀ (x y v : Host.Value) (i j : Int) (b : Bool), x.IsInt32 i → y.IsInt32 j → v.Counts b →
      ∃ d', d.hostSetPixel x y v = .ok d' ∧ (¬OnGrid i j → d' = d) ∧
        ∀ (x' y' : Host.Value) (i' j' : Int), x'.IsInt32 i' → y'.IsInt32 j' →
          d'.hostPixel x' y' =
            if i' = i ∧ j' = j ∧ OnGrid i j then .ok b else d.hostPixel x' y') ∧
      (∀ (x y : Host.Value) (i j : Int), x.IsInt32 i → y.IsInt32 j → ¬OnGrid i j →
        d.hostPixel x y = .ok false) ∧
      (∀ (i j : Int) (v : Host.Value), ¬OnGrid i j → d.hostSetPixel (.int i) (.int j) v = .ok d) ∧
      (∀ (x y : Host.Value) (i j n : Int), x.IsInt32 i → y.IsInt32 j → OnGrid i j →
        ¬(-2147483648 ≤ n ∧ n ≤ 2147483647) → d.hostSetPixel x y (.int n) = .error .overflow) ∧
      d.textLines.length = 32 ∧ (∀ line ∈ d.textLines, line.length = 64) ∧
      ∀ (x : Column) (y : Line), d.hostPixel (.int x) (.int y) = .ok (d.pixel x y) ∧
        (d.columns[x.val]?.bind fun column => column[y.val]?) = some (d.pixel x y) ∧
        d.flat[64 * y.val + x.val]? = some (d.pixel x y) ∧
        (d.textLines[y.val]?.bind fun row => row[x.val]?) =
          some (if d.pixel x y then '#' else ' ') := by
  refine ⟨fun x y v i j b hx hy hv => ?_, fun x y i j hx hy h => ?_,
    fun i j v h => d.hostSetPixel_off v h,
    fun x y i j n hx hy h hn => d.hostSetPixel_wide hx hy h hn, d.length_textLines,
    fun line => d.length_of_mem_textLines, fun x y => ?_⟩
  · exact ⟨d.setPixel i j b, d.hostSetPixel_eq hx hy hv, fun h => d.setPixel_of_off h b,
      fun x' y' i' j' hx' hy' => d.hostPixel_setPixel b hx' hy'⟩
  · rw [d.hostPixel_eq hx hy, d.pixelAt_of_off h]
  · have hx : (Host.Value.int x.val).IsInt32 x.val := .plain (by omega)
    have hy : (Host.Value.int y.val).IsInt32 y.val := .plain (by omega)
    rw [d.hostPixel_eq hx hy, pixelAt_val]
    exact ⟨rfl, d.getElem?_columns x y, d.getElem?_flat x y, d.getElem?_textLines x y⟩

/-- On the lower right corner, the coordinates partly stored, and far off the grid. -/
theorem views_agree_cornerPixel :
    (∃ d', blank.hostSetPixel (.int 63) (.sized .device (.signed 32) (.int 31)) (.int 2) = .ok d' ∧
      d'.hostPixel (.sized .host (.signed 32) (.int 63)) (.int 31) = .ok true ∧
      d'.hostPixel (.int 0) (.int 31) = .ok false) ∧
    blank.hostPixel (.int (-1)) (.int 31) = .ok false ∧
    blank.hostSetPixel (.int 1180591620717411303424) (.int (-1)) .null = .ok blank ∧
    blank.hostSetPixel (.int 63) (.int 31) (.int 2147483648) = .error .overflow := by
  obtain ⟨hset, hoff, hfar, hwide, -⟩ := views_agree blank
  have hcorner : (Host.Value.int 63).IsInt32 63 := .plain (by decide)
  have hbottom : (Host.Value.int 31).IsInt32 31 := .plain (by decide)
  have hstored : (Host.Value.sized .device (.signed 32) (.int 31)).IsInt32 31 :=
    .sized .device (by decide)
  obtain ⟨d', hd', -, hread⟩ := hset _ _ (.int 2) _ _ _ hcorner hstored (.int (by decide))
  refine ⟨⟨d', hd', ?_, ?_⟩, hoff _ _ _ _ (.plain (by decide)) hbottom (by decide),
    hfar _ _ _ (by decide), hwide _ _ _ _ _ hcorner hbottom (by decide) (by decide)⟩
  · exact hread _ _ _ _ (.sized .host (by decide)) hbottom
  · rw [hread _ _ _ _ (.plain (by decide)) hbottom, if_neg (by decide)]
    rfl

/-- A plain integer of 32 bits and more is not taken for its truth value, and so the pixel is not
set. -/
theorem setPixel_refused_wide :
    (Host.Value.int 2147483648).isTrue = true ∧
      (blank.hostSetPixel (.int 5) (.int 5) (.int 2147483648)).bind
        (fun d' => d'.hostPixel (.int 5) (.int 5)) = .error .overflow :=
  ⟨rfl, rfl⟩

end Display

end Chip8
