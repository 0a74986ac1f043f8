/-
  ShuttleDesk/Desk/Assignment.lean
  ================================
  Binding requests to shifts.  The shift is locked first, then the request, which
  must be pending.  That a car is overloaded does not stop an assignment; it goes
  through with a warning.  A published request stays bound.
-/
import ShuttleDesk.Desk.Operation
import ShuttleDesk.Store.Bindings
import ShuttleDesk.Store.Requests
import ShuttleDesk.Store.Shifts

namespace ShuttleDesk.Desk

open Procedure Operation

/-- A broken constraint on the request means that it is bound already. -/
def bindError (request : Int) (e : StorageError) : DeskError :=
  if e = .duplicate Bindings.requestConstraint then .requestAlreadyBound request
  else .ofStorage e

/-- Binds a pending request to a shift. -/
def assign (timeout shift request : Int) : Operation (Option Warning) :=
  locking timeout do
    let s ← orFail (.shiftNotFound shift) (← Shifts.lockWithCapacity shift)
    let r ← orFail (.requestNotFound request) (← Requests.lock request)
    if r.status ≠ .pending then fail (.requestNotPending request)
    else
      let load ← Shifts.load shift
      let totals := load.withRider r.checkedBags r.carryOnBags
      (Bindings.insert shift request).mapError (bindError request)
      Requests.setStatus request .assigned
      return totals.warning s.capacity

/-- What is said of a request that stays bound. -/
def notUnassignable (request : Int) (status : RequestStatus) : String :=
  "request " ++ Numeral.text request ++ " is " ++ status.name
    ++ " and can no longer be unassigned"

/-- Unbinds a request from a shift; it is pending again. -/
def unassign (timeout shift request : Int) : Operation Unit :=
  locking timeout do
    let _ ← orFail (.shiftNotFound shift) (← Shifts.lock shift)
    let r ← orFail (.requestNotFound request) (← Requests.lock request)
    if r.status = .published then fail (.invalidState (notUnassignable request r.status))
    else if ← Bindings.delete shift request then Requests.setStatus request .pending
    else fail (.bindingNotFound shift request)

end ShuttleDesk.Desk
