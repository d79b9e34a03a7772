/-!
The random stream.  A key is a pair of 32 bit words, and everything random is drawn from a key by
the Threefry cipher with two words and twenty rounds: the key enciphers a counter.

A key is never used twice.  `Key.split` makes two keys of one; a draw (`Key.draw`) splits, keeps the
first half for later draws, and takes its byte from the second.
-/

namespace Chip8

/-- A key of the random stream. -/
structure Key where
  first : UInt32
  second : UInt32
  deriving DecidableEq, Repr

namespace Threefry

/-- The constant the third word of the key schedule is made with. -/
def parity : UInt32 := 0x1BD11BDA

/-- Rotate the bits of a word to the left, by a distance between 1 and 31. -/
def rotateLeft (w distance : UInt32) : UInt32 :=
  w <<< distance ||| w >>> (32 - distance)

/-- One round: add the second word to the first, rotate the second and mix the first into it. -/
def round (block : UInt32 × UInt32) (distance : UInt32) : UInt32 × UInt32 :=
  let sum := block.1 + block.2
  (sum, rotateLeft block.2 distance ^^^ sum)

/-- The three words added in turn between the groups of rounds. -/
def schedule (k : Key) : Fin 3 → UInt32
  | 0 => k.first
  | 1 => k.second
  | 2 => k.first ^^^ k.second ^^^ parity

/-- The rotation distances of the group of four rounds with a given number. -/
def distances (group : Nat) : List UInt32 :=
  if group % 2 = 1 then [13, 15, 26, 6] else [17, 29, 16, 24]

/-- Group `g` of rounds: four rounds, then two words of the schedule and the number of the group
are added. -/
def group (k : Key) (block : UInt32 × UInt32) (g : Nat) : UInt32 × UInt32 :=
  let mixed := (distances g).foldl round block
  (mixed.1 + schedule k (Fin.ofNat 3 g),
    mixed.2 + schedule k (Fin.ofNat 3 (g + 1)) + UInt32.ofNat g)

/-- The block a key enciphers a counter to. -/
def encipher (k : Key) (counter : UInt32 × UInt32) : UInt32 × UInt32 :=
  [1, 2, 3, 4, 5].foldl (group k) (counter.1 + schedule k 0, counter.2 + schedule k 1)

end Threefry

namespace Key

/-- The key a seed stands for, if the seed fits in 64 bits: its low 32 bits. -/
def ofSeed? (seed : Int) : Option Key :=
  if -9223372036854775808 ≤ seed ∧ seed ≤ 9223372036854775807 then
    some ⟨0, UInt32.ofInt seed⟩
  else
    none

/-- Encipher a counter to a key. -/
def derive (k : Key) (counter : UInt32 × UInt32) : Key :=
  let block := Threefry.encipher k counter
  ⟨block.1, block.2⟩

/-- Two independent keys in place of one. -/
def split (k : Key) : Key × Key :=
  (k.derive (0, 0), k.derive (0, 1))

/-- The byte a key yields. -/
def byte (k : Key) : UInt8 :=
  let block := Threefry.encipher k.split.2 (0, 0)
  (block.1 ^^^ block.2).toUInt8

/-- Draw a byte: the byte and the key for the next draw. -/
def draw (k : Key) : UInt8 × Key :=
  (k.split.2.byte, k.split.1)

end Key

end Chip8
