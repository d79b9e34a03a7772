import Chip8.Console.Basic
import Chip8.Trace

/-!
Observers: what a machine tells about its run, and who listens.

A machine sends out notices (`Notice`): a program was loaded, an instruction was executed, a word
named no instruction, a fault is about to be reported.  An observer is data and takes a notice by
`Observer.receive`, which gives the observer afterwards and what the host gets to see of it.  No
observer can answer back, so none influences the machine.

A `Recorder` keeps the newest records, up to a limit, and counts all of them by kind.
-/

namespace Chip8

/-- What a machine tells its observers. -/
inductive Notice
  /-- A program of that many bytes was loaded. -/
  | programLoaded (size : Nat)
  /-- An instruction was executed. -/
  | instruction (record : Record)
  /-- A word that names no instruction was passed over. -/
  | unimplemented (record : Record)
  /-- A fault stops the machine. -/
  | fault (error : Error)

/-- What a host sees happen during a call. -/
inductive Event
  /-- A line on a console. -/
  | line (text : String)
  /-- A notice, handed on by an observer that listens for the host. -/
  | notice (n : Notice)

/-! ### Recorders -/

/-- How often each kind of instruction was counted, in the order of first arrival. -/
abbrev Tally := List (Opcode × Nat)

namespace Tally

/-- Count a kind once more. -/
def bump (o : Opcode) : Tally → Tally
  | [] => [(o, 1)]
  | (p, n) :: rest => if p = o then (p, n + 1) :: rest else (p, n) :: bump o rest

/-- How often a kind was counted. -/
def count (t : Tally) (o : Opcode) : Nat :=
  (t.lookup o).getD 0

theorem count_bump (t : Tally) (o p : Opcode) :
    (t.bump o).count p = t.count p + if o = p then 1 else 0 := by
  induction t with
  | nil => by_cases h : o = p <;> grind [bump, count]
  | cons e rest ih =>
    obtain ⟨q, n⟩ := e
    unfold count at ih ⊢
    by_cases h : q = o <;> by_cases h' : p = q <;> grind [bump]

end Tally

/-- What a recorder has kept. -/
structure Recorder where
  /-- How many records are kept; all of them if there is no limit. -/
  limit : Option Nat
  /-- The records kept, newest first. -/
  newest : List Record
  counts : Tally
  /-- The records of words that name no instruction, newest first. -/
  unknown : List Record
  /-- The faults, newest first. -/
  failed : List Error
  programsLoaded : Nat

namespace Recorder

/-- The limit of a recorder of which nothing else is asked. -/
def defaultLimit : Nat := 1000

/-- A recorder that has seen nothing yet. -/
def empty (limit : Option Nat) : Recorder :=
  ⟨limit, [], [], [], [], 0⟩

/-- The recorder a host asks for: no argument, or a limit, which may be nothing at all. -/
def ofArguments : List Host.Value → Except Error Recorder
  | [] => .ok (empty (some defaultLimit))
  | [.null] => .ok (empty none)
  | [.number (.bool b)] => .ok (empty (some b.toNat))
  | [.number (.int i)] =>
    if 9223372036854775807 < i ∨ i < -9223372036854775808 then .error .overflow
    else if i < 0 then .error .negativeLimit
    else .ok (empty (some i.toNat))
  | _ => .error .wrongType

/-- The newest records within a limit. -/
def keep (limit : Option Nat) (records : List Record) : List Record :=
  match limit with
  | some n => records.take n
  | none => records

/-- The recorder after a notice. -/
def receive (r : Recorder) : Notice → Recorder
  | .programLoaded _ => { r with programsLoaded := r.programsLoaded + 1 }
  | .instruction record =>
    { r with
      newest := keep r.limit (record :: r.newest)
      counts := r.counts.bump record.opcode }
  | .unimplemented record => { r with unknown := record :: r.unknown }
  | .fault error => { r with failed := error :: r.failed }

/-- The records kept, oldest first. -/
def records (r : Recorder) : List Record :=
  r.newest.reverse

/-- The records of words that name no instruction, oldest first. -/
def unimplemented (r : Recorder) : List Record :=
  r.unknown.reverse

/-- The faults, oldest first. -/
def faults (r : Recorder) : List Error :=
  r.failed.reverse

end Recorder

/-! ### Observers -/

/-- Someone who is told what a machine does. -/
inductive Observer
  /-- Hands every notice on to the host. -/
  | listener
  /-- Writes notices on a console. -/
  | printer (console : Console)
  /-- Keeps records and counts. -/
  | recorder (r : Recorder)

namespace Observer

/-- What a printer writes for a notice, if anything. -/
def noticeText? : Notice → Option String
  | .programLoaded size => some ("Program loaded (" ++ toString size ++ " bytes)")
  | .instruction record => some record.line
  | .unimplemented _ => none
  | .fault error => some ("Fault: " ++ error.message)

/-- The observer after a notice, and what the host sees of it. -/
def receive (n : Notice) : Observer → Observer × List Event
  | listener => (listener, [.notice n])
  | printer console =>
    match noticeText? n with
    | some text =>
      let logged := console.log Level.debug.name text
      (printer logged.1, logged.2.toList.map .line)
    | none => (printer console, [])
  | recorder r => (recorder (r.receive n), [])

/-- Several observers after a notice, in order, and what the host sees of it. -/
def receiveAll (n : Notice) : List Observer → List Observer × List Event
  | [] => ([], [])
  | o :: rest =>
    let first := o.receive n
    let others := receiveAll n rest
    (first.1 :: others.1, first.2 ++ others.2)

end Observer

end Chip8
