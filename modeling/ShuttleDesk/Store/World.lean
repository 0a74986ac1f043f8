/-
  ShuttleDesk/Store/World.lean
  ============================
  The store as an operation meets it: the tables, the ids that have been given out,
  the clock, the rows that another session holds, and whether the store is open.
-/
import ShuttleDesk.Store.Tables

namespace ShuttleDesk

/-- The last id given out in each table. -/
structure Issued where
  users : Int
  drivers : Int
  requests : Int
  shifts : Int
  deriving DecidableEq, Repr

/-- The store and what surrounds it. -/
structure World where
  tables : Tables
  issued : Issued
  now : Calendar.WallClock
  heldShifts : List Int
  heldRequests : List Int
  isOpen : Bool
  deriving DecidableEq, Repr

def World.empty (now : Calendar.WallClock) : World where
  tables := .empty
  issued := ⟨0, 0, 0, 0⟩
  now := now
  heldShifts := []
  heldRequests := []
  isOpen := true

end ShuttleDesk
