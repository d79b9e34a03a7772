import Chip8.Proofs.Execution.Draw
import Mathlib.Algebra.Group.Nat.Even
import Mathlib.Data.List.Perm.Basic

/-!
Draws one after the other.  A draw reads two registers, a height and `I`; this is its `Stroke`.
With the memory, it fixes the pixels that the draw toggles (`Stroke.Covers`), whatever is on the
grid already.  So a list of draws acts on the grid by toggling alone (`display_drawAll`):

* `paint_comm` — two strokes give the same grid in either order, hence so does any reordering;
* `paint_paint` — a stroke undoes itself, hence an even number of copies can be left out.

The flag does look at the grid, and of two equal draws in a row the second one finds what the first
one left: its flag is raised by the pixels that were off before both (`overlaps_paint_iff`).  On
`litDot` no such pixel exists, and the second draw lowers the flag.

Main result: `draws_xor`.
-/

namespace Chip8

/-! ### Strokes -/

/-- What a draw reads: the bytes in its two registers, its number of rows, and `I`. -/
structure Stroke where
  column : UInt8
  line : UInt8
  height : Nibble
  index : UInt16
  deriving DecidableEq

namespace Stroke

/-- A set bit of the stroke lies over a pixel of the grid. -/
def Covers (k : Stroke) (m : Memory) (x : Column) (y : Line) : Prop :=
  ∃ i < k.height.val, ∃ j < 8,
    x.val = k.column.toNat % 64 + j ∧ y.val = k.line.toNat % 32 + i ∧
      Sprite.bit (m.read (k.index.toNat + i)) j = true

instance (k : Stroke) (m : Memory) (x : Column) (y : Line) : Decidable (k.Covers m x y) :=
  inferInstanceAs (Decidable (∃ i < k.height.val, ∃ j < 8, _))

/-- The rows at their position. -/
def sprite (k : Stroke) (m : Memory) : Sprite where
  left := ⟨k.column.toNat % 64, Nat.mod_lt _ (by decide)⟩
  top := ⟨k.line.toNat % 32, Nat.mod_lt _ (by decide)⟩
  rows := (List.range k.height.val).map fun i => m.read (k.index.toNat + i)

theorem lit_sprite_iff (k : Stroke) (m : Memory) (x : Column) (y : Line) :
    (k.sprite m).lit x y = true ↔ k.Covers m x y := by
  refine (Sprite.lit_range_iff _ _ (fun i => m.read (k.index.toNat + i)) _ x y).trans ?_
  constructor
  · rintro ⟨⟨hleft, hright⟩, ⟨htop, hbottom⟩, hbit⟩
    exact ⟨y.val - k.line.toNat % 32, Nat.sub_lt_left_of_lt_add htop hbottom,
      x.val - k.column.toNat % 64, Nat.sub_lt_left_of_lt_add hleft hright,
      (Nat.add_sub_of_le hleft).symm, (Nat.add_sub_of_le htop).symm, hbit⟩
  · rintro ⟨i, hi, j, hj, hx, hy, hbit⟩
    simp only [hx, hy, Nat.add_sub_cancel_left]
    exact ⟨⟨Nat.le_add_right _ _, Nat.add_lt_add_left hj _⟩,
      ⟨Nat.le_add_right _ _, Nat.add_lt_add_left hi _⟩, hbit⟩

theorem lit_sprite (k : Stroke) (m : Memory) (x : Column) (y : Line) :
    (k.sprite m).lit x y = decide (k.Covers m x y) := by
  rw [Bool.eq_iff_iff, lit_sprite_iff, decide_eq_true_eq]

end Stroke

/-! ### Strokes on a grid -/

namespace Display

/-- The grid with a stroke's pixels toggled. -/
def paint (m : Memory) (d : Display) (k : Stroke) : Display :=
  d.toggle (k.sprite m)

variable (m : Memory) (d : Display)

theorem pixel_paint (k : Stroke) (x : Column) (y : Line) :
    (d.paint m k).pixel x y = (d.pixel x y ^^ decide (k.Covers m x y)) := by
  rw [paint, pixel_toggle, Stroke.lit_sprite]

theorem paint_paint (k : Stroke) : (d.paint m k).paint m k = d :=
  toggle_toggle d _

theorem paint_comm (k k' : Stroke) : (d.paint m k).paint m k' = (d.paint m k').paint m k := by
  apply ext_pixel
  intro x y
  simp only [pixel_paint, Bool.xor_assoc, Bool.xor_comm (decide (k.Covers m x y))]

instance : RightCommutative (paint m) where
  right_comm d k k' := paint_comm m d k k'

/-- Pixel by pixel, strokes are flips of one bit. -/
theorem pixel_foldl_paint (strokes : List Stroke) (x : Column) (y : Line) :
    (strokes.foldl (paint m) d).pixel x y =
      strokes.foldl (fun on k => on ^^ decide (k.Covers m x y)) (d.pixel x y) := by
  induction strokes generalizing d with
  | nil => rfl
  | cons k strokes ih => rw [List.foldl_cons, List.foldl_cons, ih, pixel_paint]

/-- An even number of copies of one stroke. -/
theorem foldl_paint_replicate {n : Nat} (hn : Even n) (k : Stroke) :
    (List.replicate n k).foldl (paint m) d = d := by
  obtain ⟨c, rfl⟩ := hn
  induction c with
  | zero => rfl
  | succ c ih =>
    rw [show c + 1 + (c + 1) = c + c + 2 by omega, List.replicate_succ, List.replicate_succ,
      List.foldl_cons, List.foldl_cons, paint_paint, ih]

/-- A stroke that occurs an even number of times can be left out. -/
theorem foldl_paint_filter (strokes : List Stroke) {k : Stroke} (hk : Even (strokes.count k)) :
    (strokes.filter (· != k)).foldl (paint m) d = strokes.foldl (paint m) d := by
  -- bring the copies to the front, where they cancel
  have hperm : (List.replicate (strokes.count k) k ++ strokes.filter (· != k)).Perm strokes := by
    rw [← List.filter_beq]
    exact List.filter_append_perm (· == k) strokes
  calc (strokes.filter (· != k)).foldl (paint m) d
      = (strokes.filter (· != k)).foldl (paint m)
          ((List.replicate (strokes.count k) k).foldl (paint m) d) := by
        rw [foldl_paint_replicate m d hk]
    _ = (List.replicate (strokes.count k) k ++ strokes.filter (· != k)).foldl (paint m) d :=
        List.foldl_append.symm
    _ = strokes.foldl (paint m) d := hperm.foldl_eq d

/-- After a stroke, the pixels that it covers and that are on are those that were off before. -/
theorem overlaps_paint_iff (k : Stroke) :
    (d.paint m k).overlaps (k.sprite m) = true ↔ ∃ x y, k.Covers m x y ∧ d.pixel x y = false := by
  rw [overlaps_iff]
  refine exists_congr fun x => exists_congr fun y => ?_
  rw [Stroke.lit_sprite_iff]
  refine and_congr_right fun hcovers => ?_
  rw [pixel_paint, decide_eq_true hcovers, Bool.xor_true, Bool.not_eq_true']

end Display

/-! ### Draws -/

/-- A draw to execute, with the registers to execute it on, whose rows lie in memory. -/
structure Draw where
  word : Word
  registers : Vector UInt8 16
  index : UInt16
  form : word &&& 0xF000 = 0xD000
  fits : 0 < word.n.val → index.toNat + word.n.val ≤ 4096

/-- The stroke of a draw. -/
def Draw.stroke (d : Draw) : Stroke :=
  ⟨d.registers[d.word.x.val], d.registers[d.word.y.val], d.word.n, d.index⟩

namespace State

/-- The stroke of a draw `DXYN` that comes next. -/
def stroke (s : State) (w : Word) : Stroke :=
  ⟨s.register w.x, s.register w.y, w.n, s.index⟩

section

variable {s : State} {w : Word} (hw : w &&& 0xF000 = 0xD000)
  (hfits : 0 < w.n.val → s.index.toNat + w.n.val ≤ 4096)

include hw hfits

theorem execute_eq_perform_draw : s.execute w = (s.withStatus .ok).perform (.draw w.x w.y w.n) := by
  have hf : s.fault? (.draw w.x w.y w.n) = none := by
    rw [fault?_draw, if_neg]
    rintro ⟨hrows, hover⟩
    exact absurd (hfits hrows) (by omega)
  exact execute_eq_perform (Instruction.ofWord_of_draw hw) hf

/-- A draw without a fault toggles the pixels of its stroke and sets the flag. -/
theorem execute_draw :
    s.execute w =
      { s.setRegister 15 (Alu.flagByte (s.display.overlaps ((s.stroke w).sprite s.memory))) with
        display := s.display.paint s.memory (s.stroke w)
        status := .ok } :=
  execute_eq_perform_draw hw hfits

/-- A draw does not move the operands of another one like it, unless they lie in the flag. -/
theorem stroke_execute (hx : w.x ≠ 15) (hy : w.y ≠ 15) : (s.execute w).stroke w = s.stroke w := by
  have he := execute_eq_perform_draw hw hfits
  have hregister {k : Nibble} (hk : k ≠ 15) : (s.execute w).register k = s.register k := by
    rw [he]
    exact register_perform (List.mem_singleton.not.mpr hk)
  have hindex : (s.execute w).index = s.index := by
    rw [he]
    exact perform_index _ _
  rw [stroke, stroke, hregister hx, hregister hy, hindex]

end

/-- Execute a draw on the registers that it comes with. -/
def drawNext (s : State) (d : Draw) : State :=
  { s with registers := d.registers, index := d.index }.execute d.word

/-- Execute draws one after the other. -/
def drawAll (s : State) (draws : List Draw) : State :=
  draws.foldl drawNext s

theorem drawNext_eq (s : State) (d : Draw) :
    (s.drawNext d).memory = s.memory ∧
      (s.drawNext d).display = s.display.paint s.memory d.stroke := by
  rw [drawNext, execute_draw d.form d.fits]
  exact ⟨rfl, rfl⟩

/-- On the grid, a list of draws is the list of their strokes. -/
theorem display_drawAll (s : State) (draws : List Draw) :
    (s.drawAll draws).display =
      (draws.map Draw.stroke).foldl (Display.paint s.memory) s.display := by
  induction draws generalizing s with
  | nil => rfl
  | cons d draws ih =>
    obtain ⟨hm, hd⟩ := s.drawNext_eq d
    rw [List.map_cons, List.foldl_cons, ← hd, ← hm]
    exact ih (s.drawNext d)

/-- **Draws act on the grid by exclusive or.**  Each of a list of draws without a fault, executed on
whatever registers and `I` it comes with, flips the pixels that its stroke covers in memory, and no
others.  So the grid at the end depends on the strokes alone and not on their order, and a stroke
that occurs an even number of times can be left out.

A draw whose operands are not in `VF`, executed twice, leaves all but `VF` and the status as it was.
`VF` is 1 if the stroke covers a pixel that was off before both, and 0 if it covers none. -/
theorem draws_xor (s : State) :
    (∀ draws : List Draw,
        (∀ x y, (s.drawAll draws).display.pixel x y =
            draws.foldl (fun on d => on ^^ decide (d.stroke.Covers s.memory x y))
              (s.display.pixel x y)) ∧
          (∀ others : List Draw, (others.map Draw.stroke).Perm (draws.map Draw.stroke) →
            (s.drawAll others).display = (s.drawAll draws).display) ∧
          ∀ k, Even ((draws.map Draw.stroke).count k) →
            (s.drawAll (draws.filter (·.stroke != k))).display = (s.drawAll draws).display) ∧
      ∀ w : Word, w &&& 0xF000 = 0xD000 → w.x ≠ 15 → w.y ≠ 15 →
        (0 < w.n.val → s.index.toNat + w.n.val ≤ 4096) →
        (s.execute w).execute w =
          (s.setRegister 15
            (if ∃ x y, (s.stroke w).Covers s.memory x y ∧ s.display.pixel x y = false
              then 1 else 0)).withStatus .ok := by
  refine ⟨fun draws => ⟨fun x y => ?_, fun others hperm => ?_, fun k hk => ?_⟩,
    fun w hw hx hy hfits => ?_⟩
  · rw [display_drawAll, Display.pixel_foldl_paint, List.foldl_map]
  · rw [display_drawAll, display_drawAll]
    exact hperm.foldl_eq s.display
  · have hmap : (draws.filter (·.stroke != k)).map Draw.stroke =
        (draws.map Draw.stroke).filter (· != k) := by
      rw [List.filter_map]
      rfl
    rw [display_drawAll, display_drawAll, hmap, Display.foldl_paint_filter s.memory s.display _ hk]
  · obtain ⟨flag, hfirst⟩ : ∃ flag, s.execute w =
        { s.setRegister 15 flag with
          display := s.display.paint s.memory (s.stroke w), status := .ok } :=
      ⟨_, execute_draw hw hfits⟩
    -- the second draw undoes the first one, and its flag replaces the other one
    have hsecond := execute_draw (s := s.execute w) hw (by rw [hfirst]; exact hfits)
    rw [hsecond, stroke_execute hw hfits hx hy, hfirst]
    simp only [setRegister, withStatus, Vector.set_set, Display.paint_paint, Alu.flagByte,
      Display.overlaps_paint_iff]

/-- The rows of `cornerSprite`, at the same position, which other registers hold now. -/
def cornerStrokes : State :=
  { cornerSprite with registers := #v[61, 31, 0, 0, 0, 0, 0, 0, 0, 0, 0, 0, 0, 0, 0, 7] }

/-- The draw at the corner. -/
def cornerDraw : Draw where
  word := 0xD012
  registers := cornerStrokes.registers
  index := 0xFFE
  form := by decide
  fits := by decide

/-- The second row of it alone, at the origin. -/
def originDraw : Draw where
  word := 0xD221
  registers := cornerStrokes.registers
  index := 0xFFF
  form := by decide
  fits := by decide

/-- Around a draw at the origin, two draws at the corner cancel.  One of them is executed twice: it
meets two pixels that are off, and one that is on. -/
theorem draws_xor_cornerStrokes :
    (cornerStrokes.drawAll [cornerDraw, originDraw, cornerDraw]).display =
        (cornerStrokes.drawAll [originDraw]).display ∧
      (cornerStrokes.drawAll [originDraw, cornerDraw, cornerDraw]).display =
        (cornerStrokes.drawAll [cornerDraw, originDraw, cornerDraw]).display ∧
      (cornerStrokes.drawAll [cornerDraw, originDraw, cornerDraw]).display.pixel 7 0 = true ∧
      ((cornerStrokes.execute 0xD012).execute 0xD012).display = cornerStrokes.display ∧
      ((cornerStrokes.execute 0xD012).execute 0xD012).register 15 = 1 := by
  obtain ⟨hall, htwice⟩ := draws_xor cornerStrokes
  obtain ⟨hpixel, hperm, heven⟩ := hall [cornerDraw, originDraw, cornerDraw]
  have hpair := heven cornerDraw.stroke (by decide)
  have horder := hperm [originDraw, cornerDraw, cornerDraw] (by decide)
  refine ⟨hpair.symm.trans (by rfl), horder, ?_, ?_⟩
  · rw [hpixel]
    decide +kernel
  · have hoff : ∃ x y, (cornerStrokes.stroke 0xD012).Covers cornerStrokes.memory x y ∧
        cornerStrokes.display.pixel x y = false := ⟨61, 31, by decide +kernel⟩
    rw [htwice 0xD012 (by decide) (by decide) (by decide) (by decide), if_pos hoff]
    exact ⟨rfl, rfl⟩

/-- A sprite of one pixel, which is on. -/
def litDot : State :=
  { State.initial ⟨0, 0⟩ with
    memory := Memory.zero.writeAll 0x208 [0x80]
    display := Display.blank.setPixel 0 0 true
    index := 0x208 }

/-- That a stroke covers some pixel does not raise the flag of the second draw: on `litDot` the
first draw turns the pixel off, and the second one turns it on again. -/
theorem second_draw_litDot :
    ¬∀ (s : State) (w : Word), w &&& 0xF000 = 0xD000 → w.x ≠ 15 → w.y ≠ 15 →
      (0 < w.n.val → s.index.toNat + w.n.val ≤ 4096) →
      (((s.execute w).execute w).register 15 = 1 ↔ ∃ x y, (s.stroke w).Covers s.memory x y) := by
  intro hall
  have hiff := hall litDot 0xD011 (by decide) (by decide) (by decide) (by decide)
  have hone : ((litDot.execute 0xD011).execute 0xD011).register 15 = 1 :=
    hiff.mpr ⟨0, 0, by decide +kernel⟩
  exact absurd hone (by decide +kernel)

end State

end Chip8
