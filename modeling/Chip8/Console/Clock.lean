/-!
Clocks.  A clock is the list of readings it will give; when they have run out, the last one repeats.
-/

namespace Chip8

/-- A clock: the next reading and those that follow it. -/
structure Clock where
  next : Float
  upcoming : List Float

namespace Clock

/-- The clock that gives the readings of a list, or stands at zero if there are none. -/
def ofReadings : List Float → Clock
  | [] => ⟨0, []⟩
  | t :: rest => ⟨t, rest⟩

/-- Read the clock: the time and the clock afterwards. -/
def read (c : Clock) : Float × Clock :=
  match c.upcoming with
  | [] => (c.next, c)
  | t :: rest => (c.next, ⟨t, rest⟩)

end Clock

end Chip8
