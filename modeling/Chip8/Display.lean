import Chip8.Word

/-!
The framebuffer: a grid of 64 by 32 pixels, each on or off, with `(0, 0)` at the top left.

The grid never wraps.  A coordinate outside it reads as off, and setting it changes nothing.  A
`Sprite` is up to fifteen rows of eight pixels at a position; `Sprite.lit` says which pixels of the
grid it covers, so what hangs over the right or the lower edge is cut off by having no pixel there.
Drawing toggles the covered pixels (`Display.toggle`) and reports whether one of them was on
(`Display.overlaps`).

`pixel_ofFn`, `pixel_toggle` and `pixelAt_setPixel` describe the operations pixel by pixel.
-/

namespace Chip8

/-- A column of the grid. -/
abbrev Column := Fin 64

/-- A line of the grid. -/
abbrev Line := Fin 32

/-- The pixels, line by line. -/
structure Display where
  lines : Vector (Vector Bool 64) 32
  deriving DecidableEq

namespace Display

/-- Pixels in a line. -/
def width : Nat := 64

/-- Lines in the grid. -/
def height : Nat := 32

/-- The state of a pixel. -/
def pixel (d : Display) (x : Column) (y : Line) : Bool :=
  (d.lines[y.val])[x.val]

/-- The grid whose pixels a function gives. -/
def ofFn (f : Column → Line → Bool) : Display :=
  ⟨Vector.ofFn fun y => Vector.ofFn fun x => f x y⟩

/-- The grid with every pixel off. -/
def blank : Display :=
  ⟨Vector.replicate 32 (Vector.replicate 64 false)⟩

@[simp]
theorem pixel_ofFn (f : Column → Line → Bool) (x : Column) (y : Line) :
    (ofFn f).pixel x y = f x y := by
  simp [ofFn, pixel]

@[simp]
theorem pixel_blank (x : Column) (y : Line) : blank.pixel x y = false := by
  simp [blank, pixel]

theorem ext_pixel {d d' : Display} (h : ∀ x y, d.pixel x y = d'.pixel x y) : d = d' := by
  cases d with | mk v =>
  cases d' with | mk v' =>
  congr 1
  apply Vector.ext
  intro j hj
  apply Vector.ext
  intro i hi
  exact h ⟨i, hi⟩ ⟨j, hj⟩

/-! ### Coordinates of any size -/

/-- The column and line of a pair of coordinates that lies on the grid. -/
def cell? (x y : Int) : Option (Column × Line) :=
  if h : (0 ≤ x ∧ x < 64) ∧ 0 ≤ y ∧ y < 32 then
    some (⟨x.toNat, by omega⟩, ⟨y.toNat, by omega⟩)
  else
    none

/-- The state of the pixel at a pair of coordinates; off the grid, off. -/
def pixelAt (d : Display) (x y : Int) : Bool :=
  match cell? x y with
  | some (i, j) => d.pixel i j
  | none => false

/-- The grid with one pixel replaced; off the grid, unchanged. -/
def setPixel (d : Display) (x y : Int) (on : Bool) : Display :=
  match cell? x y with
  | some (i, j) => ofFn fun i' j' => if i' = i ∧ j' = j then on else d.pixel i' j'
  | none => d

/-- Setting a pixel changes that pixel and no other. -/
theorem pixelAt_setPixel (d : Display) (x y x' y' : Int) (on : Bool) :
    (d.setPixel x y on).pixelAt x' y' =
      if x' = x ∧ y' = y ∧ (cell? x y).isSome then on else d.pixelAt x' y' := by
  unfold setPixel pixelAt cell?
  by_cases h : (0 ≤ x ∧ x < 64) ∧ 0 ≤ y ∧ y < 32
  · by_cases h' : (0 ≤ x' ∧ x' < 64) ∧ 0 ≤ y' ∧ y' < 32
    · simp only [dif_pos h, dif_pos h', pixel_ofFn, Fin.mk.injEq, Option.isSome_some, and_true]
      by_cases he : x' = x ∧ y' = y
      · rw [if_pos he, if_pos (by omega)]
      · rw [if_neg he, if_neg (by omega)]
    · have hne : ¬(x' = x ∧ y' = y) := by omega
      simp only [dif_pos h, dif_neg h', Option.isSome_some, and_true, if_neg hne]
  · simp only [dif_neg h, Option.isSome_none, Bool.false_eq_true, and_false, if_false]

/-! ### Views -/

/-- The pixels column by column: entry `x` holds column `x` from the top down. -/
def columns (d : Display) : Vector (Vector Bool 32) 64 :=
  Vector.ofFn fun x => Vector.ofFn fun y => d.pixel x y

/-- The pixels in one row, line after line: pixel `(x, y)` is entry `64 y + x`. -/
def flat (d : Display) : Vector Bool 2048 :=
  Vector.ofFn fun k => d.pixel ⟨k.val % 64, by omega⟩ ⟨k.val / 64, by omega⟩

/-- A line as text: a mark for a pixel that is on, a blank for one that is off. -/
def renderLine (d : Display) (y : Line) : List Char :=
  (List.finRange 64).map fun x => if d.pixel x y then '#' else ' '

/-- The grid as 32 lines of text. -/
def render (d : Display) : String :=
  String.intercalate "\n" ((List.finRange 32).map fun y => String.ofList (d.renderLine y))

/-! ### Sprites -/

end Display

/-- Rows of eight pixels, the leftmost in the high bit, with the top left corner on the grid. -/
structure Sprite where
  left : Column
  top : Line
  rows : List UInt8

namespace Sprite

/-- Bit `k` of a row, counted from the left. -/
def bit (row : UInt8) (k : Nat) : Bool :=
  row.toNat.testBit (7 - k)

/-- Whether the sprite has a set bit over a pixel of the grid. -/
def lit (s : Sprite) (x : Column) (y : Line) : Bool :=
  if s.left.val ≤ x.val ∧ x.val < s.left.val + 8 ∧ s.top.val ≤ y.val then
    match s.rows[y.val - s.top.val]? with
    | some row => bit row (x.val - s.left.val)
    | none => false
  else
    false

end Sprite

namespace Display

/-- The grid with the pixels under a sprite toggled. -/
def toggle (d : Display) (s : Sprite) : Display :=
  ofFn fun x y => d.pixel x y ^^ s.lit x y

/-- Whether a pixel under a sprite is on. -/
def overlaps (d : Display) (s : Sprite) : Bool :=
  (List.finRange 32).any fun y => (List.finRange 64).any fun x => s.lit x y && d.pixel x y

@[simp]
theorem pixel_toggle (d : Display) (s : Sprite) (x : Column) (y : Line) :
    (d.toggle s).pixel x y = (d.pixel x y ^^ s.lit x y) := by
  simp [toggle]

/-- Toggling twice restores the grid. -/
theorem toggle_toggle (d : Display) (s : Sprite) : (d.toggle s).toggle s = d := by
  apply ext_pixel
  intro x y
  simp

theorem overlaps_iff (d : Display) (s : Sprite) :
    d.overlaps s = true ↔ ∃ x y, s.lit x y = true ∧ d.pixel x y = true := by
  simp only [overlaps, List.any_eq_true, List.mem_finRange, true_and, Bool.and_eq_true]
  constructor
  · rintro ⟨y, x, h⟩
    exact ⟨x, y, h⟩
  · rintro ⟨x, y, h⟩
    exact ⟨y, x, h⟩

end Display

end Chip8
