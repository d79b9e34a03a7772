import Chip8.Console.Clock
import Chip8.Console.Level
import Chip8.Decimal.Fixed
import Chip8.Error
import Chip8.Text.UpperCase

/-!
Consoles: where a machine writes its messages.

A console has a threshold and shows the messages that rank at or above it, one line each: the time
since the console was opened, the level, the name of the console, the message.  Colours are used
only on a terminal.

The clock is read once when the console is opened and afterwards only for a line that is shown with
its time, so messages that are not shown leave no trace at all (`log_of_not_enabled`).
-/

namespace Chip8

/-- What a host asks of a console. -/
structure Console.Settings where
  name : Host.Value := .text "Chip8"
  level : Host.Value := .text "INFO"
  colours : Host.Value := .bool true
  stamps : Host.Value := .bool true

/-- A console. -/
structure Console where
  /-- The name shown in each line. -/
  name : Host.Value
  /-- The level from which on messages are shown. -/
  threshold : Level
  /-- Whether levels are coloured. -/
  colours : Host.Value
  /-- Whether the time is shown. -/
  stamps : Host.Value
  /-- When the console was opened. -/
  start : Float
  clock : Clock

namespace Console

/-- The text a value is, where the name of a level is wanted. -/
def levelText : Host.Value → Except Error String
  | .text s => .ok s
  | _ => .error .notText

/-- Open a console, on a terminal or not. -/
def ofSettings (settings : Settings) (terminal : Bool) (clock : Clock) : Except Error Console := do
  let level ← levelText settings.level
  match Level.ofName? (Text.upperCase level) with
  | none => .error (.unknownLevel level)
  | some threshold =>
    .ok {
      name := settings.name
      threshold := threshold
      colours := if settings.colours.isTrue then .bool terminal else settings.colours
      stamps := settings.stamps
      start := clock.read.1
      clock := clock.read.2 }

/-- Whether messages of a level are shown. -/
def isEnabledFor (c : Console) (level : String) : Bool :=
  c.threshold.rank ≤ Level.rankOf (Text.upperCase level)

/-- Text in the colour of a level; afterwards the terminal is back to normal. -/
def coloured (level text : String) : String :=
  (match Level.ofName? level with
    | some l => "\x1b[" ++ toString l.colour ++ "m"
    | none => "") ++ text ++ "\x1b[0m"

/-- The level of a line, eight characters wide in its brackets. -/
def levelTag (c : Console) (level : String) : String :=
  let tag := "[" ++ Text.padLeft 8 level ++ "]"
  if c.colours.isTrue then coloured level tag else tag

/-- The time shown in a line, in seconds with two places. -/
def stamp (elapsed : Float) : String :=
  "[" ++ Text.padLeft 8 (Decimal.twoPlaces elapsed) ++ "s]"

/-- A line, without the time. -/
def line (c : Console) (level message : String) : String :=
  c.levelTag level ++ "[" ++ c.name.display ++ "] " ++ message

/-- Log a message: the console afterwards, and the line that is shown, if one is. -/
def log (c : Console) (level message : String) : Console × Option String :=
  let level := Text.upperCase level
  if c.isEnabledFor level then
    if c.stamps.isTrue then
      let time := c.clock.read
      ({ c with clock := time.2 }, some (stamp (time.1 - c.start) ++ c.line level message))
    else
      (c, some (c.line level message))
  else
    (c, none)

theorem log_of_not_enabled {c : Console} {level : String} (message : String)
    (h : c.isEnabledFor (Text.upperCase level) = false) : c.log level message = (c, none) := by
  simp [log, h]

end Console

end Chip8
