import Chip8.Host.Value

/-!
Values as arrays: the extents of a nested sequence and the storage type its elements share.

The extents are found level by level (`extents`).  A level counts when all its values are sequences
of one length; a level of plain elements ends the array; a level that mixes the two, or sequences of
different lengths, makes it ragged.  An array has at most 64 extents.

The storage type is that of the first element joined with those of the others in turn
(`ElementType.join`).  Integers are signed where they fit in 64 bits and unsigned where only that
fits; the two together are only held by fractions.
-/

namespace Chip8.Host

/-! ### Element types -/

namespace ElementType

/-- Characters needed for the text of any number of a storage type. -/
def textLength : ElementType → Nat
  | boolean => 5
  | signed 8 => 4
  | signed 16 => 6
  | signed 32 => 11
  | signed _ => 21
  | unsigned 8 => 3
  | unsigned 16 => 5
  | unsigned 32 => 10
  | unsigned _ => 20
  | floating _ => 32
  | text length => length
  | bytes length => length
  | object => 0

/-- The narrowest fractions that hold every integer of a number of bits. -/
def fractionBits (bits : Nat) : Nat :=
  if bits ≤ 8 then 16 else if bits ≤ 16 then 32 else 64

/-- The storage type of numbers of two storage types. -/
def joinNumbers : ElementType → ElementType → ElementType
  | boolean, t => t
  | t, boolean => t
  | signed a, signed b => signed (max a b)
  | unsigned a, unsigned b => unsigned (max a b)
  | floating a, floating b => floating (max a b)
  | signed a, unsigned b | unsigned b, signed a =>
    if b < a then signed a else if b < 64 then signed (2 * b) else floating 64
  | floating a, signed b | floating a, unsigned b | signed b, floating a | unsigned b, floating a =>
    floating (max a (fractionBits b))
  | _, _ => object

/-- The storage type of elements of two storage types: text holds numbers, and only `object` holds
everything. -/
def join : ElementType → ElementType → ElementType
  | object, _ => object
  | _, object => object
  | text a, t => text (max a t.textLength)
  | t, text b => text (max t.textLength b)
  | bytes a, t => bytes (max a t.textLength)
  | t, bytes b => bytes (max t.textLength b)
  | s, t => joinNumbers s t

end ElementType

namespace Value

/-- The storage type of a value that is a single element. -/
def elementType : Value → ElementType
  | number (.bool _) => .boolean
  | number (.int i) =>
    if -9223372036854775808 ≤ i ∧ i ≤ 9223372036854775807 then .signed 64
    else if 0 ≤ i ∧ i ≤ 18446744073709551615 then .unsigned 64
    else .object
  | number (.real _) => .floating 64
  | text s => .text (max 1 s.length)
  | buffer _ data => .bytes (max 1 data.length)
  | sized _ type _ => type
  | array type _ => type
  | null | list _ | tuple _ | table _ | boxed _ => .object

/-- The items of a value that is a sequence.  Inside a sequence a buffer that can change or be
viewed is a sequence of bytes. -/
def items? : Value → Option (List Value)
  | list items | tuple items => some items
  | array type (list items) => some (items.map (array type))
  | buffer .fixed _ => none
  | buffer _ data => some (data.map fun b => sized .host (.unsigned 8) (.int b.toNat))
  | _ => none

/-! ### Extents -/

/-- What a level of a nested sequence is made of. -/
inductive Level
  /-- Plain elements only, or nothing. -/
  | elements
  /-- Sequences of one length, with all their items. -/
  | sequences (length : Nat) (items : List Value)
  /-- A mixture. -/
  | mixed

/-- The kind of a level with the given values. -/
def level (values : List Value) : Level :=
  match values.filterMap items? with
  | [] => .elements
  | first :: rest =>
    if rest.length + 1 = values.length ∧ rest.all (·.length == first.length) then
      .sequences first.length (first ++ rest.flatten)
    else
      .mixed

/-- The extents of a nested sequence, outermost first. -/
inductive Extents
  | regular (extents : List Nat)
  /-- The extents down to the level that mixes. -/
  | ragged (extents : List Nat)
  /-- There are more levels than an array can have extents. -/
  | tooDeep
  deriving DecidableEq, Repr

/-- The extents with one more in front. -/
def Extents.cons (n : Nat) : Extents → Extents
  | regular extents => regular (n :: extents)
  | ragged extents => ragged (n :: extents)
  | tooDeep => tooDeep

/-- The extents from a level on, if at most `depth` more may follow. -/
def extentsFrom (depth : Nat) (values : List Value) : Extents :=
  match level values, depth with
  | .elements, _ => .regular []
  | .mixed, 0 => .tooDeep
  | .mixed, _ + 1 => .ragged []
  | .sequences _ _, 0 => .tooDeep
  | .sequences length items, depth + 1 => (extentsFrom depth items).cons length

/-- The greatest number of extents. -/
def maxExtents : Nat := 64

/-- The extents of a value; none for a value that is a single element. -/
def extents (v : Value) : Extents :=
  extentsFrom maxExtents [v]

/-! ### Elements -/

mutual

/-- The elements of a nested sequence, in order. -/
def elements : Value → List Value
  | list items | tuple items => elementsOf items
  | array type content => contentElements type content
  | buffer .fixed data => [buffer .fixed data]
  | buffer _ data => data.map fun b => sized .host (.unsigned 8) (.int b.toNat)
  | v => [v]

/-- The elements of several values. -/
def elementsOf : List Value → List Value
  | [] => []
  | v :: rest => elements v ++ elementsOf rest

/-- The elements of the content of an array. -/
def contentElements (type : ElementType) : Value → List Value
  | list items => contentElementsOf type items
  | number n => [sized .host type n]
  | _ => [array type null]

/-- The elements of several parts of the content of an array. -/
def contentElementsOf (type : ElementType) : List Value → List Value
  | [] => []
  | v :: rest => contentElements type v ++ contentElementsOf type rest

end

/-- The storage type that the elements of a nested sequence share. -/
def sharedType (elements : List Value) : ElementType :=
  match elements with
  | [] => .floating 64
  | first :: rest => rest.foldl (fun t v => t.join v.elementType) first.elementType

/-- The integer an element stands for; a truth value counts as zero or one. -/
def elementInt? : Value → Option Int
  | number (.bool b) | sized _ _ (.bool b) => some (if b then 1 else 0)
  | number (.int i) | sized _ _ (.int i) => some i
  | _ => none

end Value

end Chip8.Host
