import Chip8.Error
import Chip8.Host.Key

/-!
Errors made by a host.  A host may make an error of any kind itself, from arguments given by place
or by name.  `Error.ofArguments` gives the error, or the one that stands in its place if the
arguments are not those of the kind.

Each argument belongs to one parameter, each parameter takes at most one argument, and a parameter
without a default needs one (`bind?`).  Addresses and words are integers; nothing stands for one
that is not known.
-/

namespace Chip8.Error

open Host (Value)

/-! ### Parameters -/

/-- The argument of each parameter, or nothing if an argument has no parameter of its own. -/
def bind? (parameters : List String) (byPlace : List Value) (byName : List (String × Value)) :
    Option (List (Option Value)) :=
  let free := parameters.drop byPlace.length
  if byPlace.length ≤ parameters.length ∧ byName.all (fun e => free.contains e.1) then
    some (byPlace.map some ++ free.map fun p => byName.lookup p)
  else
    none

/-- An argument that must be an integer to be written in base sixteen. -/
def hexadecimalInt : Value → Except Error Int
  | .number (.int i) | .sized _ _ (.int i) => .ok i
  | .number (.bool b) | .sized _ _ (.bool b) => .ok (if b then 1 else 0)
  | .text _ => .error (.notHexadecimal "str")
  | .number (.real _) | .sized _ _ (.real _) => .error (.notHexadecimal "float")
  | _ => .error .wrongType

/-- An argument that is an integer to be written in base sixteen, or nothing. -/
def optionalInt : Option Value → Except Error (Option Int)
  | none | some .null => .ok none
  | some v => (hexadecimalInt v).map some

/-- Whether a value can stand before the place of a fault: text can, and so can all that counts as
false, for which the name of the kind stands. -/
def isPlaceable : Option Value → Bool
  | none | some (.text _) => true
  | some v => !v.isTrue

/-- The text of a fault; nothing if the name of its kind is to stand. -/
def faultText : Option Value → String
  | none => ""
  | some v => if v.isTrue then v.display else ""

/-- The text of an error that only carries arguments: one argument is its own text. -/
def plainText : List Value → String
  | [] => ""
  | [v] => v.display
  | vs => (Value.tuple vs).literal

/-! ### Errors -/

/-- An error that a host makes, if its message can be written. -/
def checked (e : Error) : Except Error Error :=
  if e.isWritable then .ok e else .error .tooManyDigits

/-- A part of the place of a fault, which must be an integer and have a text to stand behind. -/
def placePart (v text : Option Value) : Except Error (Option Int) := do
  let part ← optionalInt v
  if part.isSome && !isPlaceable text then .error .wrongType else .ok part

/-- A fault from its three arguments. -/
def faultOf (kind : FaultKind) : List (Option Value) → Except Error Error
  | [pc, instruction, text] => do
    let pc ← placePart pc text
    let instruction ← placePart instruction text
    .ok (.fault kind pc instruction (faultText text))
  | _ => .error .wrongType

/-- The kinds of fault that are told by the place alone. -/
def faultKind? (name : String) : Option FaultKind :=
  [FaultKind.general, .stackUnderflow, .stackOverflow, .protectedWrite].find? (·.name == name)

/-- The error of a named kind from its arguments. -/
def ofArguments (name : String) (byPlace : List Value) (byName : List (String × Value)) :
    Except Error Error := do
  let bound (parameters : List String) : Except Error (List (Option Value)) :=
    match bind? parameters byPlace byName with
    | some arguments => .ok arguments
    | none => .error .wrongType
  match faultKind? name with
  | some kind => faultOf kind (← bound ["pc", "instruction", "message"])
  | none =>
    match name with
    | "AddressOutOfRange" =>
      match ← bound ["address", "pc", "instruction"] with
      | [address, pc, instruction] =>
        .ok (.addressOutOfRange (← optionalInt address) (← optionalInt pc)
          (← optionalInt instruction))
      | _ => .error .wrongType
    | "ProgramTooLarge" =>
      match ← bound ["size", "limit"] with
      | [some size, some limit] =>
        match size.index?, limit.index? with
        | some size, some limit => checked (.programTooLarge size limit)
        | _, _ => .error .wrongType
      | _ => .error .wrongType
    | "InvalidKeyIndex" =>
      match ← bound ["key"] with
      | [some key] => checked (.invalidKey key)
      | _ => .error .wrongType
    | "UnimplementedOpcode" =>
      match ← bound ["pc", "instruction"] with
      | [some pc, some instruction] => do
        let instruction ← hexadecimalInt instruction
        .ok (.unimplementedOpcode (← hexadecimalInt pc) instruction)
      | _ => .error .wrongType
    | _ =>
      if !byName.isEmpty then .error .wrongType
      else if name == "MachineHalted" then .ok (.machineHalted (plainText byPlace))
      else .ok (.general (plainText byPlace))

end Chip8.Error
