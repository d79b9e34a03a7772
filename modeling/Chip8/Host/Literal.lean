import Chip8.Decimal.Shortest
import Chip8.Host.Value
import Chip8.Text.Numeral
import Chip8.Text.Quoted

/-!
The notation of values.  `Value.literal` writes a value so that its kind can be told from the text:
text is quoted, sequences stand in brackets, a number with a storage type names it.
`Value.display` is the same but for text, which stands for itself, and for numbers with a storage
type, which show the number alone.

No integer of more than 4300 digits is written, so not every value has a text
(`Value.isWritable`).  An array of more than a thousand items is abridged, and what is left out of it
need not have one.
-/

namespace Chip8.Host

/-- A number as text. -/
def Number.display : Number → String
  | bool true => "True"
  | bool false => "False"
  | int i => toString i
  | real x => Decimal.shortestText x

/-- A number with a storage type, as text that names the type and the place. -/
def Number.literalAs (n : Number) : Place → ElementType → String
  | .host, .boolean => "np." ++ n.display ++ "_"
  | .host, type => "np." ++ type.name ++ "(" ++ n.display ++ ")"
  | .device, type => "Array(" ++ n.display ++ ", dtype=" ++ type.name ++ ")"

/-- Bytes in a buffer, as text. -/
def Buffer.literal (data : List UInt8) : Buffer → String
  | fixed => Text.quotedBytes data
  | mutable => "bytearray(" ++ Text.quotedBytes data ++ ")"
  | view => "<memory>"

namespace Value

/-- Items in round brackets; a single one keeps a comma, so that the brackets do not read as mere
grouping. -/
def bracketed : List String → String
  | [item] => "(" ++ item ++ ",)"
  | items => "(" ++ ", ".intercalate items ++ ")"

end Value

/-! ### Arrays -/

/-- What there is to each item of an array, laid out as the items are. -/
inductive Layout (α : Type)
  | item (a : α)
  | row (parts : List (Layout α))

namespace Layout

section Items

variable {α : Type}

/-- The number of dimensions. -/
def depth : Layout α → Nat
  | row (first :: _) => depth first + 1
  | row [] => 1
  | item _ => 0

mutual

/-- All items, in order. -/
def items : Layout α → List α
  | item a => [a]
  | row parts => itemsOf parts

/-- The items of several parts, in order. -/
def itemsOf : List (Layout α) → List α
  | [] => []
  | l :: rest => items l ++ itemsOf rest

end

/-- An array of more than a thousand items is abridged. -/
def isLong (l : Layout α) : Bool :=
  1000 < l.items.length

/-- What an abridged row keeps of its parts: three at either end, with a mark for what is left out
between them. -/
def abridge (mark parts : List α) : List α :=
  if 6 < parts.length then parts.take 3 ++ mark ++ parts.drop (parts.length - 3) else parts

mutual

/-- The items that are written of an abridged array. -/
def kept : Layout α → List α
  | item a => [a]
  | row parts => (abridge [] (keptOf parts)).flatten

/-- The items that are written of each of several parts. -/
def keptOf : List (Layout α) → List (List α)
  | [] => []
  | l :: rest => kept l :: keptOf rest

end

/-- The items that are written. -/
def written (l : Layout α) : List α :=
  if l.isLong then l.kept else l.items

end Items

/-- What stands between the parts of an array that have `levels` dimensions below them: rows are put
on lines of their own, with a blank line more for each further dimension. -/
def separator (levels indent : Nat) : String :=
  if levels = 0 then ", "
  else String.ofList (',' :: (List.replicate levels '\n' ++ List.replicate indent ' '))

mutual

/-- The items in columns of one width at least. -/
def grid (long : Bool) (width levels indent : Nat) : Layout String → String
  | item text => Text.padLeft width text
  | row parts =>
    let texts := grids long width (levels - 1) (indent + 1) parts
    let texts := if long then abridge ["..."] texts else texts
    "[" ++ (separator (levels - 1) indent).intercalate texts ++ "]"

/-- Each of several parts. -/
def grids (long : Bool) (width levels indent : Nat) : List (Layout String) → List String
  | [] => []
  | l :: rest => grid long width levels indent l :: grids long width levels indent rest

end

/-- The width of the columns of an array: numbers stand below each other, other items do not. -/
def columnWidth (type : ElementType) (l : Layout String) : Nat :=
  match type with
  | .boolean => if l.depth = 0 then 0 else 5
  | .signed _ | .unsigned _ | .floating _ => (l.written.map String.length).foldl max 0
  | .text _ | .bytes _ | .object => 0

/-- What names the type of an array behind its items; the widest types need no name unless there are
no items to show them. -/
def typeSuffix (type : ElementType) (l : Layout String) : String :=
  match type with
  | .signed 64 | .floating 64 | .boolean =>
    if l.items.isEmpty then ", dtype=" ++ type.name ++ ")" else ")"
  | .text _ | .bytes _ => ", dtype='" ++ type.name ++ "')"
  | _ => ", dtype=" ++ type.name ++ ")"

/-- An array of a storage type. -/
def array (type : ElementType) (l : Layout String) : String :=
  "array(" ++ l.grid l.isLong (l.columnWidth type) l.depth 7 ++ l.typeSuffix type

end Layout

/-! ### Values -/

namespace Value

/-- An item of an array of objects: a list in it is told from a dimension of the array. -/
def boxedText (v : Value) (text : String) : String :=
  match v with
  | list _ => "list(" ++ text ++ ")"
  | _ => text

mutual

/-- A value in the notation that tells its kind. -/
def literal : Value → String
  | null => "None"
  | number n => n.display
  | text s => Text.quoted s
  | buffer kind data => kind.literal data
  | list items => "[" ++ ", ".intercalate (literals items) ++ "]"
  | tuple items => bracketed (literals items)
  | table entries => "\x7b" ++ ", ".intercalate (entryLiterals entries) ++ "\x7d"
  | sized place type n => n.literalAs place type
  | array type content => (layout content).array type
  | boxed v => literal v

/-- The notation of each item. -/
def literals : List Value → List String
  | [] => []
  | v :: rest => literal v :: literals rest

/-- The notation of each entry of a table. -/
def entryLiterals : List (String × Value) → List String
  | [] => []
  | (key, v) :: rest => (Text.quoted key ++ ": " ++ literal v) :: entryLiterals rest

/-- The content of an array. -/
def layout : Value → Layout String
  | list items => .row (layouts items)
  | number n => .item n.display
  | text s => .item (Text.quoted s)
  | boxed v => .item (boxedText v (literal v))
  | _ => .item "None"

/-- Several parts of the content of an array. -/
def layouts : List Value → List (Layout String)
  | [] => []
  | v :: rest => layout v :: layouts rest

end

/-- A value as it stands in running text. -/
def display : Value → String
  | text s => s
  | sized _ _ n => n.display
  | v => literal v

end Value

/-! ### Values without a text -/

/-- The integers below this bound in magnitude have a text: 4300 digits are as many as a number is
written with in base ten. -/
@[irreducible]
def writableBound : Nat :=
  Nat.pow 10 4300

/-- The number has a text. -/
def Number.isWritable : Number → Bool
  | int i => i.natAbs < writableBound
  | bool _ | real _ => true

theorem Number.isWritable_int_iff (i : Int) :
    (Number.int i).isWritable = true ↔ i.natAbs < writableBound := by
  rw [Number.isWritable, decide_eq_true_iff]

namespace Value

mutual

/-- The value has a text: no integer in it is too long to be written. -/
def isWritable : Value → Bool
  | null | text _ | buffer _ _ => true
  | number n | sized _ _ n => n.isWritable
  | list items | tuple items => areWritable items
  | table entries => entriesWritable entries
  | array _ content => (writables content).written.all id
  | boxed v => isWritable v

/-- All items have a text. -/
def areWritable : List Value → Bool
  | [] => true
  | v :: rest => isWritable v && areWritable rest

/-- All entries of a table have a text. -/
def entriesWritable : List (String × Value) → Bool
  | [] => true
  | (_, v) :: rest => isWritable v && entriesWritable rest

/-- Which items of the content of an array have a text. -/
def writables : Value → Layout Bool
  | list items => .row (writablesOf items)
  | number n => .item n.isWritable
  | boxed v => .item (isWritable v)
  | _ => .item true

/-- Which items of several parts have a text. -/
def writablesOf : List Value → List (Layout Bool)
  | [] => []
  | v :: rest => writables v :: writablesOf rest

end

end Value

end Chip8.Host
