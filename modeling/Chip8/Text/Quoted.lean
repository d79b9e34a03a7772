import Chip8.Text.Numeral
import Chip8.Text.Printable

/-!
Quoted text.  Text stands between single quotes, or between double quotes if it holds a single quote
and no double one.  The quote in use, the backslash and the characters that are not printable are
written as escapes: a letter for tab, line feed and carriage return, otherwise the code in two, four
or eight hexadecimal digits, whichever is the least that suffices.

Bytes are quoted in the same way with a letter `b` in front; of them the printable ones of ASCII
stand for themselves.
-/

namespace Chip8.Text

/-- The quote that text is put in. -/
def quoteFor (cs : List Char) : Char :=
  if cs.contains '\'' && !cs.contains '"' then '"' else '\''

/-- A code in lower case hexadecimal digits behind an escape letter. -/
def codeEscape (letter : Char) (width code : Nat) : List Char :=
  '\\' :: letter :: (Nat.toDigits 16 code).leftpad width '0'

/-- The escape of a character that has one of its own. -/
def letterEscape? (quote c : Char) : Option (List Char) :=
  if c = quote ∨ c = '\\' then some ['\\', c]
  else if c = '\n' then some ['\\', 'n']
  else if c = '\r' then some ['\\', 'r']
  else if c = '\t' then some ['\\', 't']
  else none

/-- A character of quoted text. -/
def quotedChar (quote c : Char) : List Char :=
  match letterEscape? quote c with
  | some escape => escape
  | none =>
    if isPrintable c then [c]
    else if c.toNat < 0x100 then codeEscape 'x' 2 c.toNat
    else if c.toNat < 0x10000 then codeEscape 'u' 4 c.toNat
    else codeEscape 'U' 8 c.toNat

/-- A byte of quoted bytes. -/
def quotedByte (quote : Char) (b : UInt8) : List Char :=
  match letterEscape? quote (Char.ofNat b.toNat) with
  | some escape => escape
  | none =>
    if 32 ≤ b.toNat ∧ b.toNat < 127 then [Char.ofNat b.toNat]
    else codeEscape 'x' 2 b.toNat

/-- Text between quotes. -/
def quoted (s : String) : String :=
  let cs := s.toList
  let quote := quoteFor cs
  String.ofList (quote :: (cs.flatMap (quotedChar quote) ++ [quote]))

/-- Bytes between quotes. -/
def quotedBytes (bs : List UInt8) : String :=
  let quote := quoteFor (bs.map fun b => Char.ofNat b.toNat)
  String.ofList ('b' :: quote :: (bs.flatMap (quotedByte quote) ++ [quote]))

end Chip8.Text
