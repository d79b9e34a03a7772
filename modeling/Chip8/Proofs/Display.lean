import Chip8.Display

/-!
The framebuffer from all sides.  A pair of coordinates on the grid is a cell, and off the grid there
is nothing to set (`setPixel_of_off`) and nothing lit (`pixelAt_of_off`).

The views of the grid are read off pixel by pixel: by columns (`getElem?_columns`), in one row
(`getElem?_flat`), and as lines of text, which its line feeds tell apart (`textLines_eq`,
`getElem?_textLines`).
-/

namespace Chip8.Display

/-! ### Coordinates -/

/-- A pair of coordinates lies on the grid. -/
def OnGrid (x y : Int) : Prop :=
  (0 ≤ x ∧ x < 64) ∧ 0 ≤ y ∧ y < 32

instance (x y : Int) : Decidable (OnGrid x y) :=
  inferInstanceAs (Decidable (_ ∧ _))

theorem isSome_cell?_iff (x y : Int) : (cell? x y).isSome = true ↔ OnGrid x y := by
  rw [cell?]
  split
  · exact iff_of_true rfl ‹_›
  · exact iff_of_false Bool.false_ne_true ‹_›

theorem cell?_of_off {x y : Int} (h : ¬OnGrid x y) : cell? x y = none :=
  dif_neg h

theorem cell?_val (x : Column) (y : Line) : cell? x.val y.val = some (x, y) := by
  have hx := x.isLt
  have hy := y.isLt
  rw [cell?, dif_pos (by omega)]
  rfl

theorem pixelAt_val (d : Display) (x : Column) (y : Line) :
    d.pixelAt x.val y.val = d.pixel x y := by
  rw [pixelAt, cell?_val]

theorem pixel_setPixel_val (d : Display) (x x' : Column) (y y' : Line) (on : Bool) :
    (d.setPixel x.val y.val on).pixel x' y' = if x' = x ∧ y' = y then on else d.pixel x' y' := by
  rw [setPixel, cell?_val]
  exact pixel_ofFn _ x' y'

theorem pixelAt_of_off (d : Display) {x y : Int} (h : ¬OnGrid x y) : d.pixelAt x y = false := by
  rw [pixelAt, cell?_of_off h]

theorem setPixel_of_off (d : Display) {x y : Int} (h : ¬OnGrid x y) (on : Bool) :
    d.setPixel x y on = d := by
  rw [setPixel, cell?_of_off h]

/-! ### Views -/

theorem getElem?_columns (d : Display) (x : Column) (y : Line) :
    (d.columns[x.val]?.bind fun column => column[y.val]?) = some (d.pixel x y) := by
  simp [columns]

theorem getElem?_flat (d : Display) (x : Column) (y : Line) :
    d.flat[64 * y.val + x.val]? = some (d.pixel x y) := by
  have hx := x.isLt
  have hplace : 64 * y.val + x.val < 2048 := by omega
  have hcolumn : (64 * y.val + x.val) % 64 = x.val := by omega
  have hline : (64 * y.val + x.val) / 64 = y.val := by omega
  simp only [flat, Vector.getElem?_ofFn, dif_pos hplace, hcolumn, hline]

/-- The lines of the text that the grid is written as. -/
def textLines (d : Display) : List (List Char) :=
  d.render.toList.splitOn '\n'

theorem textLines_eq (d : Display) : d.textLines = (List.finRange 32).map d.renderLine := by
  have hlines : d.render.toList = ['\n'].intercalate ((List.finRange 32).map d.renderLine) := by
    rw [render, String.toList_intercalate, List.map_map]
    simp only [Function.comp_def, String.toList_ofList]
    rfl
  rw [textLines, hlines]
  refine List.splitOn_intercalate '\n' (fun line hline hmem => ?_) ?_
  · obtain ⟨y, -, rfl⟩ := List.mem_map.mp hline
    obtain ⟨x, -, hx⟩ := List.mem_map.mp hmem
    split at hx <;> exact absurd hx (by decide)
  · simp [← List.length_eq_zero_iff]

theorem length_textLines (d : Display) : d.textLines.length = 32 := by
  rw [textLines_eq, List.length_map, List.length_finRange]

theorem length_of_mem_textLines (d : Display) {line : List Char} (h : line ∈ d.textLines) :
    line.length = 64 := by
  rw [textLines_eq] at h
  obtain ⟨y, -, rfl⟩ := List.mem_map.mp h
  rw [renderLine, List.length_map, List.length_finRange]

theorem getElem?_textLines (d : Display) (x : Column) (y : Line) :
    (d.textLines[y.val]?.bind fun row => row[x.val]?) =
      some (if d.pixel x y then '#' else ' ') := by
  simp [textLines_eq, renderLine]

end Chip8.Display
