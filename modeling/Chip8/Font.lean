import Chip8.Memory

/-!
The built-in font: for each hexadecimal digit a glyph of five rows, four pixels wide, held in the
high half of a byte.  The glyphs stand in memory in the order of the digits, from
`Memory.fontStart` on; `fontStart_add_length` says that they fill the range the fault check
protects.
-/

namespace Chip8

namespace Font

/-- Rows in a glyph. -/
def glyphSize : Nat := 5

/-- The glyphs of the digits `0` to `F`. -/
def data : List UInt8 :=
  [0xF0, 0x90, 0x90, 0x90, 0xF0,
    0x20, 0x60, 0x20, 0x20, 0x70,
    0xF0, 0x10, 0xF0, 0x80, 0xF0,
    0xF0, 0x10, 0xF0, 0x10, 0xF0,
    0x90, 0x90, 0xF0, 0x10, 0x10,
    0xF0, 0x80, 0xF0, 0x10, 0xF0,
    0xF0, 0x80, 0xF0, 0x90, 0xF0,
    0xF0, 0x10, 0x20, 0x40, 0x40,
    0xF0, 0x90, 0xF0, 0x90, 0xF0,
    0xF0, 0x90, 0xF0, 0x10, 0xF0,
    0xF0, 0x90, 0xF0, 0x90, 0x90,
    0xE0, 0x90, 0xE0, 0x90, 0xE0,
    0xF0, 0x80, 0x80, 0x80, 0xF0,
    0xE0, 0x90, 0x90, 0x90, 0xE0,
    0xF0, 0x80, 0xF0, 0x80, 0xF0,
    0xF0, 0x80, 0xF0, 0x80, 0x80]

/-- The glyph of a digit. -/
def glyph (digit : Nibble) : List UInt8 :=
  (data.drop (glyphSize * digit.val)).take glyphSize

/-- The address of the glyph of a digit. -/
def glyphAddress (digit : Nibble) : Nat :=
  Memory.fontStart + glyphSize * digit.val

/-- The glyphs end where the protected range ends. -/
theorem fontStart_add_length : Memory.fontStart + data.length = Memory.fontEnd := by
  decide

/-- Every glyph has five rows. -/
theorem length_glyph (digit : Nibble) : (glyph digit).length = glyphSize := by
  have h : data.length = 80 := by decide
  simp only [glyph, glyphSize, List.length_take, List.length_drop, h]
  omega

end Font

/-- Memory as a machine starts with it: the font in its place, zeros elsewhere. -/
def Memory.initial : Memory :=
  Memory.zero.writeAll Memory.fontStart Font.data

end Chip8
