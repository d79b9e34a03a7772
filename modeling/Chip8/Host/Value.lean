/-!
Values a host hands to a machine.  A host need not pass an exact integer where one is meant: it may
pass a truth value, a fraction, text, bytes, a sequence, or a number that carries a storage type of
its own, alone or in an array.  `Value` is the sum of these, and the modules beside this one say
what each of them means as a key, an address, a coordinate, a byte or a program.

The lists in the content of an array are its dimensions.  An array of objects can also hold a
sequence as a single item, which is `boxed` then; a box stands nowhere else.

A number with a storage type lives in one of two places.  One that lives with the host
(`Place.host`) can be inspected before it is used; one that lives on the device (`Place.device`) is
used as it is.
-/

namespace Chip8.Host

/-- How the elements of an array are stored. -/
inductive ElementType
  | boolean
  | signed (bits : Nat)
  | unsigned (bits : Nat)
  | floating (bits : Nat)
  /-- Text of at most this many characters. -/
  | text (length : Nat)
  /-- Byte strings of at most this many bytes. -/
  | bytes (length : Nat)
  /-- Anything at all. -/
  | object
  deriving DecidableEq, Repr

namespace ElementType

/-- The name of a storage type. -/
def name : ElementType → String
  | boolean => "bool"
  | signed bits => "int" ++ toString bits
  | unsigned bits => "uint" ++ toString bits
  | floating bits => "float" ++ toString bits
  | text length => "<U" ++ toString length
  | bytes length => "|S" ++ toString length
  | object => "object"

/-- Whether the elements are integers. -/
def isInteger : ElementType → Bool
  | signed _ | unsigned _ => true
  | _ => false

/-- An integer brought into the range of a storage type for integers. -/
def wrap (i : Int) : ElementType → Int
  | signed bits => i.bmod (Nat.pow 2 bits)
  | unsigned bits => i % Nat.pow 2 bits
  | _ => i

end ElementType

/-- Where a number with a storage type lives. -/
inductive Place
  | host
  | device
  deriving DecidableEq, Repr

/-- The kinds of byte buffer. -/
inductive Buffer
  | fixed
  | mutable
  | view
  deriving DecidableEq, Repr

/-- A truth value, an integer of any size, or a fraction. -/
inductive Number
  | bool (b : Bool)
  | int (i : Int)
  | real (x : Float)

/-- A value a host may pass. -/
inductive Value
  | null
  | number (n : Number)
  | text (s : String)
  | buffer (kind : Buffer) (data : List UInt8)
  | list (items : List Value)
  | tuple (items : List Value)
  | table (entries : List (String × Value))
  /-- A number with a storage type. -/
  | sized (place : Place) (type : ElementType) (n : Number)
  /-- An array of a storage type; its content is an item or a list, nested for more dimensions. -/
  | array (type : ElementType) (content : Value)
  /-- A value that is one item of an array of objects, also if it is a sequence. -/
  | boxed (v : Value)

namespace Value

/-- A truth value. -/
def bool (b : Bool) : Value := number (.bool b)

/-- An integer. -/
def int (i : Int) : Value := number (.int i)

/-- A fraction. -/
def real (x : Float) : Value := number (.real x)

end Value

/-- Whether a number counts as true: every number does but zero. -/
def Number.isTrue : Number → Bool
  | bool b => b
  | int i => i != 0
  | real x => x != 0

/-- Whether a value counts as true: nothing, zero and whatever is empty do not. -/
def Value.isTrue : Value → Bool
  | null => false
  | number n => n.isTrue
  | text s => !s.isEmpty
  | buffer _ data => !data.isEmpty
  | list items => !items.isEmpty
  | tuple items => !items.isEmpty
  | table entries => !entries.isEmpty
  | sized _ _ n => n.isTrue
  | array _ content => content.isTrue
  | boxed v => v.isTrue

end Chip8.Host
