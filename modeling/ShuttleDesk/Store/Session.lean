/-
  ShuttleDesk/Store/Session.lean
  ==============================
  What happens to the store from outside: the clock goes on, another session takes
  rows and gives them back, and the store is closed for good.
-/
import ShuttleDesk.Store.World

namespace ShuttleDesk

/-- What surrounds the store when something is asked of it: the clock, the rows that another
session holds, and whether the store is open. -/
structure Moment where
  now : Calendar.WallClock
  heldShifts : List Int
  heldRequests : List Int
  isOpen : Bool
  deriving DecidableEq, Repr

namespace World

/-- The rows and the ids of a world, met at a moment. -/
def atMoment (w : World) (m : Moment) : World :=
  { tables := w.tables, issued := w.issued, now := m.now, heldShifts := m.heldShifts,
    heldRequests := m.heldRequests, isOpen := m.isOpen }

def atTime (w : World) (now : Calendar.WallClock) : World := { w with now }

def holdShift (w : World) (id : Int) : World :=
  if w.heldShifts.contains id then w else { w with heldShifts := id :: w.heldShifts }

def releaseShift (w : World) (id : Int) : World :=
  { w with heldShifts := w.heldShifts.filter (· ≠ id) }

def holdRequest (w : World) (id : Int) : World :=
  if w.heldRequests.contains id then w else { w with heldRequests := id :: w.heldRequests }

def releaseRequest (w : World) (id : Int) : World :=
  { w with heldRequests := w.heldRequests.filter (· ≠ id) }

def close (w : World) : World := { w with isOpen := false }

end World

end ShuttleDesk
