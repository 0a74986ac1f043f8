/-
  ShuttleDesk/Store/Shifts.lean
  =============================
  Statements about shifts.  A shift has a driver that exists.  Locking a shift and
  changing it wait for a row that is held.  Changing driver or departure stands
  outside transactions, so no lock timeout is set for its wait.
-/
import ShuttleDesk.Store.Statement

namespace ShuttleDesk.Shifts

open Procedure Statement

def nextId : Statement Int := do
  change fun w => { w with issued := { w.issued with shifts := w.issued.shifts + 1 } }
  return (← world).issued.shifts

def insert (driver : Int) (departure : Calendar.WallClock) : Statement Shift := do
  checkArguments [.time departure]
  let id ← nextId
  let w ← world
  if (w.tables.driver? driver).isNone then fail .missingReference
  else
    let shift : Shift := {
      id
      driverId := driver
      departureTime := departure
      status := .draft
      createdAt := w.now }
    changeTables fun t => { t with shifts := t.shifts ++ [shift] }
    readableRow Shift.isReadable shift

def find? (id : Int) : Statement (Option Shift) := do
  readableRow? Shift.isReadable (← query (·.shift? id))

/-- The order of departures; of the same departure, the older shift comes first. -/
def departsBefore (a b : Shift) : Bool := a.departureTime.seconds ≤ b.departureTime.seconds

def list : Statement (List Shift) := do
  readable Shift.isReadable (← query fun t => t.shifts.mergeSort departsBefore)

def update (id : Int) (patch : ShiftPatch) : Statement (Option Shift) := do
  checkArguments (optionalTime patch.departureTime)
  let w ← world
  awaitShifts ((w.tables.shift? id).toList.map (·.id))
  match w.tables.shift? id with
  | none => return none
  | some _ =>
    if patch.driverId.any fun d => (w.tables.driver? d).isNone then fail .missingReference
    else
      changeTables fun t => { t with shifts := updateWhere (·.id == id) patch.apply t.shifts }
      find? id

/-- A locked shift with the limits of its driver's car. -/
structure Locked where
  id : Int
  status : ShiftStatus
  driverId : Int
  capacity : Capacity
  deriving DecidableEq, Repr

/-- Locks a shift and reads the limits of its driver's car. -/
def lockWithCapacity (id : Int) : Statement (Option Locked) := do
  ensureOpen
  let t := (← world).tables
  let found : Option Locked := do
    let s ← t.shift? id
    let d ← t.driver? s.driverId
    return { id := s.id, status := s.status, driverId := s.driverId, capacity := d.capacity }
  awaitShifts (found.toList.map (·.id))
  return found

def lock (id : Int) : Statement (Option Shift) := do
  let found ← query (·.shift? id)
  awaitShifts (found.toList.map (·.id))
  readableRow? Shift.isReadable found

def setStatus (id : Int) (status : ShiftStatus) : Statement Unit := do
  ensureOpen
  awaitShifts (((← world).tables.shift? id).toList.map (·.id))
  changeTables fun t =>
    { t with shifts := updateWhere (·.id == id) (fun s => { s with status }) t.shifts }

/-- What is bound to a shift. -/
def load (id : Int) : Statement Load := query (·.load id)

def summaries (requests : List Int) : Statement (List (Int × ShiftSummary)) := do
  readable (fun p => p.2.departureTime.isReadable) (← query (·.summaries requests))

end ShuttleDesk.Shifts
