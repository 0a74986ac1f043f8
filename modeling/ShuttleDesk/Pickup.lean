/-
  ShuttleDesk/Pickup.lean
  =======================
  When a rider is picked up: some minutes after the arrival, which depend on the
  terminal.  One terminal has a longer way out.
-/
import ShuttleDesk.Calendar.DateTime

namespace ShuttleDesk.Pickup

/-- The terminal with the longer way out. -/
def extendedTerminal : String := "T5"

/-- The minutes between arrival and pickup at a terminal. -/
def bufferFor (terminal : String) : Int := if terminal = extendedTerminal then 90 else 45

/-- The pickup time for an arrival, unless it is past the calendar. -/
def time? (arrival : Calendar.DateTime) (buffer : Int) : Option Calendar.DateTime :=
  arrival.addMinutes? buffer

end ShuttleDesk.Pickup
