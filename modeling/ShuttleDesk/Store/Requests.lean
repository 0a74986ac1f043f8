/-
  ShuttleDesk/Store/Requests.lean
  ===============================
  Statements about requests.  Bag counts are not negative, and a request belongs to
  a user that exists.  Statements that lock or change rows wait for rows that are
  held and so run in transactions.
-/
import ShuttleDesk.Flight.Refresh
import ShuttleDesk.Store.Statement

namespace ShuttleDesk.Requests

open Procedure Statement

def nextId : Statement Int := do
  change fun w => { w with issued := { w.issued with requests := w.issued.requests + 1 } }
  return (← world).issued.requests

def bagsAllowed (checkedBags carryOnBags : Int) : Bool := 0 ≤ checkedBags && 0 ≤ carryOnBags

def ofNew (id user : Int) (n : NewRequest) (now : Calendar.WallClock) : Request :=
  { id
    userId := user
    flightNo := n.flightNo
    arrivalDate := n.arrivalDate
    terminal := n.terminal
    checkedBags := n.checkedBags
    carryOnBags := n.carryOnBags
    status := .pending
    arrivalTime := n.arrivalTime
    pickupBuffer := n.pickupBuffer
    calcPickupTime := n.calcPickupTime
    createdAt := now
    updatedAt := now }

def insert (user : Int) (n : NewRequest) : Statement Request := do
  checkArguments ([.text n.flightNo, .date n.arrivalDate, .text n.terminal]
    ++ optionalTime n.arrivalTime ++ optionalTime n.calcPickupTime)
  let id ← nextId
  let w ← world
  if !bagsAllowed n.checkedBags n.carryOnBags then fail .brokenRule
  else if (w.tables.user? user).isNone then fail .missingReference
  else
    let request := ofNew id user n w.now
    changeTables fun t => { t with requests := t.requests ++ [request] }
    readableRow Request.isReadable request

def countOf (user : Int) : Statement Nat := query fun t => (t.requestsOf user).length

def find? (id : Int) : Statement (Option Request) := do
  readableRow? Request.isReadable (← query (·.request? id))

/-- The requests of a rider in the order of their ids. -/
def listOf (user : Int) : Statement (List Request) := do
  readable Request.isReadable (← query (·.requestsOf user))

/-- The requests in a state in the order of their ids. -/
def listIn (status : RequestStatus) : Statement (List Request) := do
  readable Request.isReadable (← query (·.requestsIn status))

/-- The requests bound to a shift in the order of their ids. -/
def listOn (shift : Int) : Statement (List Request) := do
  readable Request.isReadable (← query (·.requestsOn shift))

def lockFound (found : Option Request) : Statement (Option Request) := do
  awaitRequests (found.toList.map (·.id))
  readableRow? Request.isReadable found

def lock (id : Int) : Statement (Option Request) := do
  lockFound (← query (·.request? id))

/-- Locks the request with an id if it belongs to a rider. -/
def lockOwned (id user : Int) : Statement (Option Request) := do
  lockFound ((← query (·.request? id)).filter (·.userId == user))

/-- Changes the rows that are chosen and returns how many they are. -/
def updateRows (chosen : Tables → Request → Bool) (edit : Request → Request) : Statement Nat := do
  let w ← world
  let rows := w.tables.requests.filter (chosen w.tables)
  awaitRequests (rows.map (·.id))
  changeTables fun t =>
    { t with requests := updateWhere (chosen t) (fun r => { edit r with updatedAt := w.now }) t.requests }
  return rows.length

/-- The columns of a request that its rider may edit, with the times that follow from them. -/
def withDetails (details r : Request) : Request :=
  { r with
    flightNo := details.flightNo
    arrivalDate := details.arrivalDate
    terminal := details.terminal
    checkedBags := details.checkedBags
    carryOnBags := details.carryOnBags
    arrivalTime := details.arrivalTime
    pickupBuffer := details.pickupBuffer
    calcPickupTime := details.calcPickupTime }

def saveDetails (details : Request) : Statement Request := do
  checkArguments ([.text details.flightNo, .date details.arrivalDate, .text details.terminal]
    ++ optionalTime details.arrivalTime ++ optionalTime details.calcPickupTime)
  if !bagsAllowed details.checkedBags details.carryOnBags then fail .brokenRule
  else
    let _ ← updateRows (fun _ r => r.id == details.id) (withDetails details)
    match ← find? details.id with
    | some r => return r
    | none => fail .rowNotFound

def setStatus (id : Int) (status : RequestStatus) : Statement Unit := do
  ensureOpen
  let _ ← updateRows (fun _ r => r.id == id) fun r => { r with status }

/-- Publishes every request bound to a shift and returns their number. -/
def publishOn (shift : Int) : Statement Nat := do
  ensureOpen
  updateRows (fun t r => t.isBound shift r.id) fun r => { r with status := .published }

/-- The numbers of the flights that still matter on a day. -/
def flightsOn (date : Calendar.Date) : Statement (List String) := do
  checkArguments [.date date]
  query (·.flightsOn date)

/-- The columns that a refresh writes. -/
def withRefresh (f : Flight.Refresh) (r : Request) : Request :=
  { r with
    terminal := f.terminal
    arrivalTime := some (.ofDateTime f.arrivalTime)
    pickupBuffer := f.pickupBuffer
    calcPickupTime := some (.ofDateTime f.calcPickupTime) }

/-- Writes a refresh onto every request of its flight that still matters, and returns their
number. -/
def applyRefresh (f : Flight.Refresh) : Statement Nat := do
  checkArguments [.text f.flightNo, .date f.arrivalDate, .text f.terminal,
    .time (.ofDateTime f.arrivalTime), .time (.ofDateTime f.calcPickupTime)]
  updateRows (fun _ r => r.flightNo == f.flightNo && Tables.awaitsFlight f.arrivalDate r)
    (withRefresh f)

end ShuttleDesk.Requests
