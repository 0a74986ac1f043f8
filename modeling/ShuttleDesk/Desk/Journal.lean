/-
  ShuttleDesk/Desk/Journal.lean
  =============================
  Calls at their moments, one after the other.  Between two calls the clock goes on,
  and other sessions take rows and give them back.  The journal has an entry for
  every call that was made, also for those that fail: its outcome, and the world
  after it.  What holds in the world after any calls holds at the end of every
  journal.
-/
import ShuttleDesk.Desk.Call
import ShuttleDesk.Store.Session

namespace ShuttleDesk.Desk

/-- A call at a moment. -/
structure TimedCall where
  moment : Moment
  call : Call

abbrev Outcome := Except (Stop DeskError) Answer

/-- A call that was made: what came of it, and the world after it. -/
structure Entry where
  call : Call
  outcome : Outcome
  after : World

/-- Makes a call at its moment, with a lock timeout in milliseconds. -/
def TimedCall.make (timeout : Int) (c : TimedCall) (w : World) : Entry :=
  let (outcome, after) := c.call.perform timeout (w.atMoment c.moment)
  { call := c.call, outcome, after }

/-- The entries of calls that are made one after the other. -/
def journal (timeout : Int) : List TimedCall → World → List Entry
  | [], _ => []
  | c :: cs, w => c.make timeout w :: journal timeout cs (c.make timeout w).after

/-- The world after calls that are made one after the other. -/
def worldAfter (timeout : Int) : List TimedCall → World → World
  | [], w => w
  | c :: cs, w => worldAfter timeout cs (c.make timeout w).after

@[simp] theorem journal_nil (timeout : Int) (w : World) : journal timeout [] w = [] := rfl

@[simp] theorem worldAfter_nil (timeout : Int) (w : World) : worldAfter timeout [] w = w := rfl

theorem journal_append (timeout : Int) (cs ds : List TimedCall) (w : World) :
    journal timeout (cs ++ ds) w
      = journal timeout cs w ++ journal timeout ds (worldAfter timeout cs w) := by
  induction cs generalizing w with
  | nil => rfl
  | cons c cs ih => simp [journal, worldAfter, ih]

theorem worldAfter_append (timeout : Int) (cs ds : List TimedCall) (w : World) :
    worldAfter timeout (cs ++ ds) w = worldAfter timeout ds (worldAfter timeout cs w) := by
  induction cs generalizing w with
  | nil => rfl
  | cons c cs ih => exact ih _

end ShuttleDesk.Desk
