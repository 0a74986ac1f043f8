/-
  ShuttleDesk/Web/Handler.lean
  ============================
  Answering what a request asks for.  The sender is checked first, then the id in
  the path, then the body; that makes a call, which the desk performs.  Every way
  out but two is answered with a code and a message: a bad id and a time past the
  calendar are answered with a plain text.
-/
import ShuttleDesk.View
import ShuttleDesk.Web.Content
import ShuttleDesk.Web.Endpoint
import ShuttleDesk.Web.Failure
import ShuttleDesk.Web.Gate

namespace ShuttleDesk.Web

open Json (Value)

/-- What the handlers need to know. -/
structure Context where
  identity : Identity
  lockTimeout : Int
  deriving DecidableEq, Repr

/-- Why a request is not answered as it asks. -/
inductive Exit where
  | refused (r : Refusal)
  | badPath (text : String)
  | failed (e : DeskError)
  deriving DecidableEq, Repr

/-! ### From requests to calls -/

def pathId (segment : Segment) : Except Exit Int := (readId segment).mapError .badPath

def content {α : Type} (read : Bytes → Except Json.Misread α) (r : Request) : Except Exit α :=
  (readBody read r).mapError .failed

def departure (raw : String) : Except Exit Calendar.DateTime :=
  (readDateTime "departure_time" raw).mapError fun e => .failed (.ofRefusal e)

/-- What a sender who has passed the gate calls. -/
def callFor (b : Bearer) (r : Request) : Endpoint → Except Exit Desk.Call
  | .createRequest => do return .createRequest b.userId (← content RequestInput.read r)
  | .listRequests => .ok (.listRequests b.userId)
  | .editRequest segment => do
    let id ← pathId segment
    return .editRequest b.userId id (← content RequestEdit.read r)
  | .listDrivers => .ok .listDrivers
  | .createDriver => do return .createDriver (← content DriverInput.read r)
  | .updateDriver segment => do
    let id ← pathId segment
    return .updateDriver id (← content DriverInput.read r)
  | .listUsers => .ok .listUsers
  | .setStaff segment => do return .setStaff (← pathId segment)
  | .unsetStaff segment => do return .unsetStaff (← pathId segment)
  | .pendingRequests => .ok .pendingRequests
  | .createShift => do
    let input ← content ShiftInput.read r
    return .createShift input.driverId (← departure input.departureTime)
  | .dashboard => .ok .dashboard
  | .updateShift segment => do
    let id ← pathId segment
    let input ← content ShiftEditInput.read r
    let departure ← input.departureTime.mapM departure
    return .updateShift id { driverId := input.driverId, departure }
  | .assignStudent segment => do
    let id ← pathId segment
    return .assign id (← content BoundId.readRequest r)
  | .removeStudent segment => do
    let id ← pathId segment
    return .unassign id (← content BoundId.readRequest r)
  | .assignStaff segment => do
    let id ← pathId segment
    return .assignStaff id (← content BoundId.readStaff r)
  | .removeStaff segment => do
    let id ← pathId segment
    return .removeStaff id (← content BoundId.readStaff r)
  | .publishShift segment => do return .publishShift (← pathId segment)

/-! ### From answers to responses -/

def successStatus : Endpoint → Nat
  | .createRequest | .createDriver | .createShift => 201
  | .assignStaff _ | .removeStaff _ => 204
  | _ => 200

/-- The response to a success: the answer under its one name, unless the status says that there
is nothing. -/
def success (e : Endpoint) (a : Desk.Answer) : Response :=
  let status := successStatus e
  if status = 204 then .bare status else .ofValue status (.object [("data", a.view)])

def version : String := "0.1.0"

def healthView (isOpen : Bool) : Value := .object [
  ("status", .string (if isOpen then "ok" else "degraded")),
  ("version", .string version),
  ("db_healthy", .bool isOpen)]

/-! ### Ways out -/

def Failure.response (f : Failure) : Response :=
  .ofValue f.status (.object [("error", .string f.message), ("code", .string f.code)])

def Exit.response : Exit → Response
  | .refused r => (Failure.ofRefusal r).response
  | .badPath text => .ofText 400 text
  | .failed e => (Failure.ofDesk e).response

/-- The response to a time past the calendar. -/
def brokenDown : Response := .ofText 500 "Service panicked"

/-- The call that a request to an endpoint makes, if its sender may make it. -/
def admittedCall (c : Context) (e : Endpoint) (r : Request) : Except Exit Desk.Call :=
  match allowedSender c.identity e.gate r with
  | .error refusal => .error (.refused refusal)
  | .ok b => callFor b r e

def responseOf (e : Endpoint) : Except (Stop DeskError) Desk.Answer → Response
  | .ok a => success e a
  | .error (.error f) => (Exit.failed f).response
  | .error .timeOverflow => brokenDown

def serve (c : Context) (e : Endpoint) (r : Request) (w : World) : Response × World :=
  match admittedCall c e r with
  | .error x => (x.response, w)
  | .ok call =>
    let (result, w') := call.perform c.lockTimeout w
    (responseOf e result, w')

def answer (c : Context) (r : Request) (w : World) : Route → Response × World
  | .health => (.ofValue 200 (healthView w.isOpen), w)
  | .desk e => serve c e r w

end ShuttleDesk.Web
