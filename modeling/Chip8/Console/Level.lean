/-!
Log levels.  There are five, and a message is shown when its level ranks at or above the threshold.
A level of any other name ranks as `info`.
-/

namespace Chip8

/-- How important a message is. -/
inductive Level
  | debug
  | info
  | warning
  | error
  | critical
  deriving DecidableEq, Repr

namespace Level

/-- The levels in ascending order. -/
def all : List Level :=
  [debug, info, warning, error, critical]

/-- The name of a level. -/
def name : Level → String
  | debug => "DEBUG"
  | info => "INFO"
  | warning => "WARNING"
  | error => "ERROR"
  | critical => "CRITICAL"

/-- The place of a level among the five. -/
def rank : Level → Nat
  | debug => 0
  | info => 1
  | warning => 2
  | error => 3
  | critical => 4

/-- The terminal's colour for a level. -/
def colour : Level → Nat
  | debug => 36
  | info => 32
  | warning => 33
  | error => 31
  | critical => 35

/-- The level of a name in upper case. -/
def ofName? (s : String) : Option Level :=
  all.find? (·.name == s)

/-- The rank of a name in upper case, whether it names a level or not. -/
def rankOf (s : String) : Nat :=
  ((ofName? s).getD info).rank

theorem ofName?_name (l : Level) : ofName? l.name = some l := by
  cases l <;> decide

end Level

end Chip8
