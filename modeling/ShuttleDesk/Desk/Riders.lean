/-
  ShuttleDesk/Desk/Riders.lean
  ============================
  What riders do: make their one request, look at it, and edit it while it is
  pending.  An edit is read as a whole before anything is written.  A rider learns
  the shift of a request only once the request is published.
-/
import ShuttleDesk.Desk.Operation
import ShuttleDesk.Input.Request
import ShuttleDesk.Store.Requests
import ShuttleDesk.Store.Shifts

namespace ShuttleDesk.Desk

open Procedure Operation
open Calendar (Date DateTime WallClock)

/-- The values of a request with a given arrival; none if the pickup is past the calendar. -/
def newRequest? (input : RequestInput) (date : Date) (arrival : DateTime) : Option NewRequest := do
  let pickupBuffer := Pickup.bufferFor input.terminal
  let pickup ← Pickup.time? arrival pickupBuffer
  return {
    flightNo := input.flightNo
    arrivalDate := date
    terminal := input.terminal
    checkedBags := input.checkedBags
    carryOnBags := input.carryOnBags
    arrivalTime := some (.ofDateTime arrival)
    pickupBuffer
    calcPickupTime := some (.ofDateTime pickup) }

/-- Makes the request of a rider, who may have only one. -/
def createRequest (rider : Int) (input : RequestInput) : Operation Request := do
  if 0 < (← Requests.countOf rider) then fail .alreadyHasRequest
  else
    ofExcept input.validate
    let date ← accepted (readDate "arrival_date" input.arrivalDate)
    let arrival ← accepted (readDateTime "expected_arrival_time" input.expectedArrivalTime)
    let values ← inCalendar (newRequest? input date arrival)
    Requests.insert rider values

/-- A request as its rider sees it. -/
structure RiderRequest where
  request : Request
  shift : Option ShiftSummary
  deriving DecidableEq, Repr

/-- The requests of a rider, with the shifts of the published ones. -/
def listRequests (rider : Int) : Operation (List RiderRequest) := do
  let requests ← Requests.listOf rider
  let published := (requests.filter (·.status == .published)).map (·.id)
  let summaries ← if published.isEmpty then pure [] else Shifts.summaries published
  return requests.map fun r => { request := r, shift := summaries.lookup r.id }

/-- An edit whose dates have been read. -/
structure RequestChange where
  flightNo : Option String
  arrivalDate : Option Date
  terminal : Option String
  checkedBags : Option Int
  carryOnBags : Option Int
  arrival : Option DateTime
  deriving DecidableEq, Repr

namespace RequestChange

def ofEdit (e : RequestEdit) : Except Refusal RequestChange := do
  let arrivalDate ← e.arrivalDate.mapM (readDate "arrival_date")
  let arrival ← e.expectedArrivalTime.mapM (readDateTime "expected_arrival_time")
  return {
    flightNo := e.flightNo
    arrivalDate
    terminal := e.terminal
    checkedBags := e.checkedBags
    carryOnBags := e.carryOnBags
    arrival }

def buffer (c : RequestChange) (r : Request) : Int :=
  match c.terminal with
  | some terminal => Pickup.bufferFor terminal
  | none => r.pickupBuffer

/-- The pickup has to be computed anew: the buffer is another one or an arrival is given. -/
def changesTiming (c : RequestChange) (r : Request) : Bool :=
  c.buffer r != r.pickupBuffer || c.arrival.isSome

/-- The arrival after the change, to compute with. -/
def arrivalAfter (c : RequestChange) (r : Request) : Option DateTime :=
  c.arrival <|> r.arrivalTime.bind WallClock.toDateTime?

/-- The pickup after the change; no value at all if it is past the calendar. -/
def pickupAfter (c : RequestChange) (r : Request) : Option (Option WallClock) :=
  if c.changesTiming r then
    match c.arrivalAfter r with
    | none => some r.calcPickupTime
    | some arrival => (Pickup.time? arrival (c.buffer r)).map fun p => some (.ofDateTime p)
  else some r.calcPickupTime

/-- The request after the change; none if its pickup is past the calendar. -/
def after? (c : RequestChange) (r : Request) : Option Request := do
  let calcPickupTime ← c.pickupAfter r
  return { r with
    flightNo := c.flightNo.getD r.flightNo
    arrivalDate := c.arrivalDate.getD r.arrivalDate
    terminal := c.terminal.getD r.terminal
    checkedBags := c.checkedBags.getD r.checkedBags
    carryOnBags := c.carryOnBags.getD r.carryOnBags
    arrivalTime := (c.arrival.map WallClock.ofDateTime) <|> r.arrivalTime
    pickupBuffer := c.buffer r
    calcPickupTime }

end RequestChange

/-- What is said of a request that can no longer be edited. -/
def notEditable (request : Int) (status : RequestStatus) : String :=
  "request " ++ Numeral.text request ++ " is " ++ status.name
    ++ ", only pending requests can be edited"

/-- Edits a pending request of a rider. -/
def editRequest (timeout rider request : Int) (edit : RequestEdit) : Operation Request :=
  locking timeout do
    let r ← orFail (.notFound request) (← Requests.lockOwned request rider)
    if !r.status.isMutable then fail (.invalidState (notEditable request r.status))
    else
      ofExcept edit.validate
      let change ← accepted (RequestChange.ofEdit edit)
      let after ← inCalendar (change.after? r)
      Requests.saveDetails after

end ShuttleDesk.Desk
