import Chip8.Error
import Chip8.State

/-!
Keys named by a host.  A key is named by an integer from 0 to 15, plain or with a storage type.  A
truth value is not a key, though it counts as an integer elsewhere.
-/

namespace Chip8

namespace Host.Value

/-- The integer a value stands for where an integer is needed: an integer, a truth value, a number
with a storage type for integers, or an array that is such a number. -/
def index? : Value → Option Int
  | number (.bool b) => some (if b then 1 else 0)
  | number (.int i) => some i
  | sized _ type (.int i) | array type (number (.int i)) => if type.isInteger then some i else none
  | _ => none

/-- Whether a value is a truth value, with or without a storage type. -/
def isTruthValue : Value → Bool
  | number (.bool _) => true
  | sized _ type _ | array type _ => type == .boolean
  | _ => false

/-- The key a value names. -/
def key (v : Value) : Except Error Nibble :=
  match if v.isTruthValue then none else v.index?.bind Nibble.ofInt? with
  | some k => .ok k
  | none => .error (Error.invalidKey v).raised

end Host.Value

namespace State

/-- The state with the level of the key a value names replaced. -/
def setKeyNamed (s : State) (key : Host.Value) (down : Bool) : Except Error State :=
  key.key.map (s.setKey · down)

/-- The state with a key pressed. -/
def pressKey (s : State) (key : Host.Value) : Except Error State :=
  s.setKeyNamed key true

/-- The state with a key released. -/
def releaseKey (s : State) (key : Host.Value) : Except Error State :=
  s.setKeyNamed key false

/-- Whether the key a value names is down. -/
def isKeyDown (s : State) (key : Host.Value) : Except Error Bool :=
  key.key.map s.keyDown

end State

end Chip8
