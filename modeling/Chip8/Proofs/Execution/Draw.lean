import Chip8.Proofs.Display
import Chip8.Proofs.Execution.Lanes

/-!
Drawing pixel by pixel.  `State.drawLoop` draws a sprite the way it is told in words: row after row
and bit after bit, from the most significant one on, each set bit toggles the pixel it lies over,
and raises the flag if the pixel was on just then.  What lies off the grid is skipped.

`Canvas.Draws` relates a canvas to the pixels plotted so far, and every loop keeps it:

* `Draws.plot` — one pixel that has not been plotted before;
* `Draws.plotBits` — the bits of one row, none of which has been plotted on before;
* `draws_plotRows` — the rows of a sprite, each of them on a line of its own.

As no pixel is plotted twice, a pixel is on when its turn comes exactly if it was on at the start.

Main result: `draw_eq_drawLoop`.  A draw, which looks at the whole grid at once, is this loop.
-/

namespace Chip8

/-! ### Distances -/

/-- What holds at the distances below `n + 1` holds below `n` or at `n`. -/
theorem exists_distance_succ_iff (p : Nat → Prop) (a i n : Nat) :
    (a ≤ i ∧ i < a + (n + 1) ∧ p (i - a)) ↔
      (a ≤ i ∧ i < a + n ∧ p (i - a)) ∨ i = a + n ∧ p n := by
  by_cases hi : i = a + n
  · rw [hi, Nat.add_sub_cancel_left]
    constructor
    · rintro ⟨-, -, hp⟩
      exact .inr ⟨rfl, hp⟩
    · rintro (⟨-, hlt, -⟩ | ⟨-, hp⟩)
      · exact absurd hlt (Nat.lt_irrefl _)
      · exact ⟨Nat.le_add_right a n, Nat.lt_succ_self _, hp⟩
  · constructor
    · rintro ⟨hle, hlt, hp⟩
      exact .inl ⟨hle, by omega, hp⟩
    · rintro (⟨hle, hlt, hp⟩ | ⟨he, -⟩)
      · exact ⟨hle, by omega, hp⟩
      · exact absurd he hi

/-- Rows read one after the other cover a pixel by the bit over it. -/
theorem Sprite.lit_range_iff (left : Column) (top : Line) (row : Nat → UInt8) (n : Nat) (x : Column)
    (y : Line) :
    (Sprite.mk left top ((List.range n).map row)).lit x y = true ↔
      (left.val ≤ x.val ∧ x.val < left.val + 8) ∧ (top.val ≤ y.val ∧ y.val < top.val + n) ∧
        bit (row (y.val - top.val)) (x.val - left.val) = true := by
  simp only [lit, List.getElem?_map]
  by_cases hin : left.val ≤ x.val ∧ x.val < left.val + 8 ∧ top.val ≤ y.val
  · rw [if_pos hin]
    by_cases hn : y.val - top.val < n
    · rw [List.getElem?_range hn, Option.map_some]
      have hy : y.val < top.val + n := by omega
      simp [hin, hy]
    · rw [List.getElem?_eq_none (by rw [List.length_range]; omega), Option.map_none]
      refine iff_of_false Bool.false_ne_true ?_
      rintro ⟨-, ⟨-, hy⟩, -⟩
      omega
  · rw [if_neg hin]
    refine iff_of_false Bool.false_ne_true ?_
    rintro ⟨⟨h1, h2⟩, ⟨h3, -⟩, -⟩
    exact hin ⟨h1, h2, h3⟩

/-! ### Plotting -/

/-- A grid in the course of a draw, and the flag so far. -/
structure Canvas where
  display : Display
  flag : UInt8

namespace Canvas

/-- Toggle the pixel at a pair of coordinates, and raise the flag if it is on.  Off the grid, do
nothing. -/
def plot (c : Canvas) (x y : Nat) : Canvas :=
  if x < 64 ∧ y < 32 then
    { display := c.display.setPixel x y (!c.display.pixelAt x y)
      flag := if c.display.pixelAt x y then 1 else c.flag }
  else c

/-- Plot the set bits among the first `n` of a byte, the most significant one at `(x, y)` and the
others to the right of it. -/
def plotBits (c : Canvas) (byte : UInt8) (x y n : Nat) : Canvas :=
  (List.range n).foldl (fun c j => if Sprite.bit byte j then c.plot (x + j) y else c) c

/-- Plot `n` bytes, the first one at `(x, y)` and the others below it. -/
def plotRows (c : Canvas) (row : Nat → UInt8) (x y n : Nat) : Canvas :=
  (List.range n).foldl (fun c i => c.plotBits (row i) x (y + i) 8) c

theorem plotBits_succ (c : Canvas) (byte : UInt8) (x y n : Nat) :
    c.plotBits byte x y (n + 1) =
      if Sprite.bit byte n then (c.plotBits byte x y n).plot (x + n) y
      else c.plotBits byte x y n := by
  rw [plotBits, List.range_succ, List.foldl_append]
  rfl

theorem plotRows_succ (c : Canvas) (row : Nat → UInt8) (x y n : Nat) :
    c.plotRows row x y (n + 1) = (c.plotRows row x y n).plotBits (row n) x (y + n) 8 := by
  rw [plotRows, List.range_succ, List.foldl_append]
  rfl

/-- The canvas has the pixels of a set toggled, and the flag says whether one of them was on. -/
structure Draws (c : Canvas) (d : Display) (plotted : Column → Line → Bool) : Prop where
  pixel : ∀ x y, c.display.pixel x y = (d.pixel x y ^^ plotted x y)
  raised : (∃ x y, plotted x y = true ∧ d.pixel x y = true) → c.flag = 1
  lowered : (¬∃ x y, plotted x y = true ∧ d.pixel x y = true) → c.flag = 0

variable {c : Canvas} {d : Display} {plotted more : Column → Line → Bool}

/-- Sets with the same pixels are the same. -/
theorem Draws.congr (h : c.Draws d plotted) (he : ∀ x y, plotted x y = true ↔ more x y = true) :
    c.Draws d more := by
  have hsame : plotted = more := by
    funext x y
    exact Bool.eq_iff_iff.mpr (he x y)
  rw [← hsame]
  exact h

/-- One more pixel. -/
theorem Draws.plot (h : c.Draws d plotted) (x y : Nat)
    (hnew : ∀ i j, i.val = x → j.val = y → plotted i j = false) :
    (c.plot x y).Draws d fun i j => plotted i j || decide (i.val = x ∧ j.val = y) := by
  by_cases hon : x < 64 ∧ y < 32
  · obtain ⟨i, rfl⟩ : ∃ i : Column, i.val = x := ⟨⟨x, hon.1⟩, rfl⟩
    obtain ⟨j, rfl⟩ : ∃ j : Line, j.val = y := ⟨⟨y, hon.2⟩, rfl⟩
    have hfresh : plotted i j = false := hnew i j rfl rfl
    -- nothing has touched the pixel yet
    have hpixel : c.display.pixelAt i.val j.val = d.pixel i j := by
      rw [Display.pixelAt_val, h.pixel, hfresh, Bool.xor_false]
    rw [Canvas.plot, if_pos hon, hpixel]
    refine ⟨fun i' j' => ?_, ?_, ?_⟩
    · rw [Display.pixel_setPixel_val, h.pixel]
      by_cases hsame : i' = i ∧ j' = j
      · obtain ⟨rfl, rfl⟩ := hsame
        simp [hfresh]
      · have hval : ¬(i'.val = i.val ∧ j'.val = j.val) := fun hv =>
          hsame ⟨Fin.ext hv.1, Fin.ext hv.2⟩
        simp [hsame, hval]
    · rintro ⟨i', j', hplot, hd⟩
      show (if d.pixel i j then (1 : UInt8) else c.flag) = 1
      split
      · rfl
      · rename_i hoff
        -- so it was not this pixel
        refine h.raised ⟨i', j', ?_, hd⟩
        rcases Bool.or_eq_true_iff.mp hplot with hplot | hplot
        · exact hplot
        · obtain ⟨hi, hj⟩ := of_decide_eq_true hplot
          rw [Fin.ext hi, Fin.ext hj] at hd
          exact absurd hd hoff
    · intro hnone
      have hoff : ¬d.pixel i j = true := fun hd => hnone ⟨i, j, by simp, hd⟩
      show (if d.pixel i j then (1 : UInt8) else c.flag) = 0
      rw [if_neg hoff]
      refine h.lowered fun ⟨i', j', hplot, hd⟩ => hnone ⟨i', j', ?_, hd⟩
      rw [hplot, Bool.true_or]
  · rw [Canvas.plot, if_neg hon]
    refine h.congr fun i j => ?_
    have hi := i.isLt
    have hj := j.isLt
    rw [decide_eq_false (by omega), Bool.or_false]

/-- The first bits of a row, on a line that nothing has been plotted on. -/
theorem Draws.plotBits (h : c.Draws d plotted) (byte : UInt8) (x y n : Nat)
    (hnew : ∀ i j, j.val = y → plotted i j = false) :
    (c.plotBits byte x y n).Draws d fun i j => plotted i j ||
      decide (j.val = y ∧ x ≤ i.val ∧ i.val < x + n ∧ Sprite.bit byte (i.val - x) = true) := by
  induction n with
  | zero =>
    refine h.congr fun i j => ?_
    rw [decide_eq_false (by omega), Bool.or_false]
  | succ n ih =>
    have hbits (i : Column) := exists_distance_succ_iff (Sprite.bit byte · = true) x i.val n
    rw [plotBits_succ]
    split
    · rename_i hbit
      have hplot := ih.plot (x + n) y fun i j hi hj => by
        rw [hnew i j hj, Bool.false_or]
        exact decide_eq_false (by omega)
      refine hplot.congr fun i j => ?_
      simp only [Bool.or_eq_true, decide_eq_true_eq, hbits, hbit, and_true]
      rw [and_or_left, or_assoc, and_comm (a := i.val = x + n)]
    · rename_i hbit
      refine ih.congr fun i j => ?_
      simp only [Bool.or_eq_true, decide_eq_true_eq, hbits, hbit, Bool.false_eq_true, and_false,
        or_false]

/-- The rows of a sprite, from the top of it down. -/
theorem draws_plotRows (d : Display) (left : Column) (top : Line) (row : Nat → UInt8) (n : Nat) :
    ((Canvas.mk d 0).plotRows row left.val top.val n).Draws d
      (Sprite.mk left top ((List.range n).map row)).lit := by
  induction n with
  | zero =>
    -- no row covers any pixel
    have hnone (i : Column) (j : Line) :
        ¬(Sprite.mk left top ((List.range 0).map row)).lit i j = true := by
      rw [Sprite.lit_range_iff]
      omega
    refine ⟨fun i j => ?_, fun ⟨i, j, hplot, _⟩ => absurd hplot (hnone i j), fun _ => rfl⟩
    rw [Bool.eq_false_iff.mpr (hnone i j), Bool.xor_false]
    rfl
  | succ n ih =>
    have hnew (i : Column) (j : Line) (hj : j.val = top.val + n) :
        (Sprite.mk left top ((List.range n).map row)).lit i j = false := by
      rw [Bool.eq_false_iff, Ne, Sprite.lit_range_iff]
      omega
    rw [plotRows_succ]
    refine (ih.plotBits (row n) left.val (top.val + n) 8 hnew).congr fun i j => ?_
    have hrows := exists_distance_succ_iff
      (fun k => Sprite.bit (row k) (i.val - left.val) = true) top.val j.val n
    simp only [Bool.or_eq_true, decide_eq_true_eq, Sprite.lit_range_iff, and_assoc, hrows]
    constructor
    · rintro (⟨hleft, hright, htop, hbottom, hbit⟩ | ⟨hlast, hleft, hright, hbit⟩)
      · exact ⟨hleft, hright, .inl ⟨htop, hbottom, hbit⟩⟩
      · exact ⟨hleft, hright, .inr ⟨hlast, hbit⟩⟩
    · rintro ⟨hleft, hright, ⟨htop, hbottom, hbit⟩ | ⟨hlast, hbit⟩⟩
      · exact .inl ⟨hleft, hright, htop, hbottom, hbit⟩
      · exact .inr ⟨hlast, hleft, hright, hbit⟩

end Canvas

namespace State

/-! ### The loop -/

/-- Draw a sprite pixel by pixel, from a lowered flag: the rows from `I` on, at the position
`(VX, VY)` brought onto the grid. -/
def drawLoop (s : State) (x y height : Nibble) : Canvas :=
  (Canvas.mk s.display 0).plotRows (fun i => s.memory.read (s.index.toNat + i))
    ((s.register x).toNat % 64) ((s.register y).toNat % 32) height.val

/-- The loop toggles the pixels under the sprite, and its flag says whether one of them was on. -/
theorem drawLoop_eq (s : State) (x y height : Nibble) :
    s.drawLoop x y height =
      ⟨s.display.toggle (s.sprite x y height),
        Alu.flagByte (s.display.overlaps (s.sprite x y height))⟩ := by
  have hdraws : (s.drawLoop x y height).Draws s.display (s.sprite x y height).lit :=
    Canvas.draws_plotRows s.display (s.sprite x y height).left (s.sprite x y height).top
      (fun i => s.memory.read (s.index.toNat + i)) height.val
  have hdisplay : (s.drawLoop x y height).display = s.display.toggle (s.sprite x y height) := by
    apply Display.ext_pixel
    intro i j
    rw [hdraws.pixel, Display.pixel_toggle]
  have hflag : (s.drawLoop x y height).flag =
      Alu.flagByte (s.display.overlaps (s.sprite x y height)) := by
    rcases ho : s.display.overlaps (s.sprite x y height) with - | -
    · refine hdraws.lowered fun hlit => ?_
      rw [(Display.overlaps_iff _ _).mpr hlit] at ho
      cases ho
    · exact hdraws.raised ((Display.overlaps_iff _ _).mp ho)
  rw [← hdisplay, ← hflag]

/-- A draw faults if it has rows and they do not fit in memory, and not otherwise. -/
theorem fault?_draw (s : State) (x y height : Nibble) :
    s.fault? (.draw x y height) =
      if 0 < height.val ∧ 4096 < s.index.toNat + height.val then some .addressFault else none := by
  have hiff (f : Fault) := s.fault?_access (i := .draw x y height) (by simp) (by simp) f
  split
  · rename_i hover
    exact (hiff .addressFault).mpr ⟨hover.1, .inl ⟨rfl, hover.2⟩⟩
  · rename_i hfits
    rw [Option.eq_none_iff_forall_ne_some]
    intro f hf
    obtain ⟨hrows, ⟨-, hover⟩ | ⟨-, hwrites, -⟩⟩ := (hiff f).mp hf
    · exact hfits ⟨hrows, hover⟩
    · cases hwrites

/-- **A draw is a loop over the pixels of its sprite.**  A word `DXYN` whose rows lie in memory
gives the grid and the flag of `drawLoop`, taken in the state before it, and leaves a normal status;
all else stays as it was.  So does the draw made lane by lane, whatever stray reads answer.  Rows
past the end of memory are a fault. -/
theorem draw_eq_drawLoop (s : State) (w : Word) (hw : w &&& 0xF000 = 0xD000) :
    (0 < w.n.val ∧ 4096 < s.index.toNat + w.n.val →
        s.execute w = s.withStatus Fault.addressFault.status) ∧
      (¬(0 < w.n.val ∧ 4096 < s.index.toNat + w.n.val) →
        s.execute w =
            { s with
              display := (s.drawLoop w.x w.y w.n).display
              registers := s.registers.set 15 (s.drawLoop w.x w.y w.n).flag
              status := .ok } ∧
          ∀ strays, (s.withStatus .ok).performLanes strays (.draw w.x w.y w.n) = s.execute w) := by
  have he := s.execute_eq w
  rw [Instruction.ofWord_of_draw hw, fault?_draw] at he
  refine ⟨fun hover => ?_, fun hfits => ?_⟩
  · rw [if_pos hover] at he
    exact he
  · rw [if_neg hfits] at he
    have hf : (s.withStatus .ok).fault? (.draw w.x w.y w.n) = none := by
      rw [fault?_draw]
      exact if_neg hfits
    refine ⟨?_, fun strays => ?_⟩
    · rw [he, drawLoop_eq]
      rfl
    · rw [he, performLanes, drawLane_eq hf]
      rfl

/-- Two rows in the last two bytes of memory, at the lower right corner of the grid with one pixel
on there; `VF` holds the column. -/
def cornerSprite : State :=
  { State.initial ⟨0, 0⟩ with
    memory := Memory.zero.writeAll 0xFFE [0xE0, 0xFF]
    display := Display.blank.setPixel 62 31 true
    registers := #v[31, 0, 0, 0, 0, 0, 0, 0, 0, 0, 0, 0, 0, 0, 0, 61]
    index := 0xFFE }

/-- Three pixels of the first row lie on the grid, one of them is on, and the second row lies below
the grid. -/
theorem draw_eq_drawLoop_cornerSprite :
    (cornerSprite.execute 0xDF02).register 15 = 1 ∧
      (cornerSprite.execute 0xDF02).display.pixel 61 31 = true ∧
      (cornerSprite.execute 0xDF02).display.pixel 62 31 = false ∧
      (cornerSprite.execute 0xDF02).display.pixel 63 31 = true ∧
      (cornerSprite.execute 0xDF02).display.pixel 0 31 = false := by
  obtain ⟨he, -⟩ := (draw_eq_drawLoop cornerSprite 0xDF02 (by decide)).2 (by decide)
  rw [he]
  decide +kernel

end State

end Chip8
