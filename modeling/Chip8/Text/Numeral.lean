/-!
Numerals in fixed columns.  `hexadecimal` writes an integer in base sixteen with at least a given
number of characters, zeros standing between the sign and the digits; a minus sign counts as one of
the characters and nothing is ever cut off.  `padLeft` and `padRight` fill text with blanks.
-/

namespace Chip8.Text

/-- Text at least `width` characters wide, blanks first. -/
def padLeft (width : Nat) (s : String) : String :=
  String.ofList (s.toList.leftpad width ' ')

/-- Text at least `width` characters wide, blanks last. -/
def padRight (width : Nat) (s : String) : String :=
  String.ofList (s.toList.rightpad width ' ')

/-- The digits of a number in base sixteen, in upper case. -/
def hexDigits (n : Nat) : List Char :=
  (Nat.toDigits 16 n).map Char.toUpper

/-- An integer in base sixteen, at least `width` characters wide. -/
def hexadecimal (width : Nat) (i : Int) : String :=
  if i < 0 then
    String.ofList ('-' :: (hexDigits i.natAbs).leftpad (width - 1) '0')
  else
    String.ofList ((hexDigits i.natAbs).leftpad width '0')

example : hexadecimal 3 255 = "0FF" := by decide +kernel
example : hexadecimal 3 (-1) = "-01" := by decide +kernel
example : hexadecimal 4 74565 = "12345" := by decide +kernel

end Chip8.Text
