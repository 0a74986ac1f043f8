/-
  ShuttleDesk/Desk/Operators.lean
  ===============================
  What operators do: shifts and their staff, drivers, users, and publication.
  Publishing a shift publishes every request bound to it.  Only users who may
  accompany a shift are made its staff, and an administrator keeps that role.
-/
import ShuttleDesk.Desk.Operation
import ShuttleDesk.Store.Bindings
import ShuttleDesk.Store.Drivers
import ShuttleDesk.Store.Requests
import ShuttleDesk.Store.Shifts
import ShuttleDesk.Store.Users
import ShuttleDesk.Text.Blank

namespace ShuttleDesk.Desk

open Procedure Operation

/-- The driver with an id, who must exist. -/
def existingDriver (id : Int) : Operation Driver := do
  orFail (.driverNotFound id) (← Drivers.find? id)

/-- The user with an id, who must exist. -/
def existingUser (id : Int) : Operation User := do
  orFail (.userNotFound id) (← Users.find? id)

/-! ### Shifts -/

def createShift (driver : Int) (departure : Calendar.DateTime) : Operation Shift := do
  let _ ← existingDriver driver
  Shifts.insert driver (.ofDateTime departure)

/-- An edit of a shift whose departure has been read. -/
structure ShiftChange where
  driverId : Option Int
  departure : Option Calendar.DateTime
  deriving DecidableEq, Repr

def ShiftChange.patch (c : ShiftChange) : ShiftPatch :=
  { driverId := c.driverId, departureTime := c.departure.map .ofDateTime }

/-- Edits a shift.  The update stands by itself, with no lock timeout set for it. -/
def updateShift (shift : Int) (change : ShiftChange) : Operation Shift := do
  if change.patch.isEmpty then fail .noFieldsToUpdate
  else
    match change.driverId with
    | some driver => let _ ← existingDriver driver
    | none => pure ()
    orFail (.shiftNotFound shift) (← Shifts.update shift change.patch)

/-- Publishes a shift and the requests bound to it; returns the number of requests. -/
def publishShift (timeout shift : Int) : Operation Nat :=
  locking timeout do
    let _ ← orFail (.shiftNotFound shift) (← Shifts.lock shift)
    Shifts.setStatus shift .published
    Requests.publishOn shift

/-- A shift with everything bound to it. -/
structure ShiftDetail where
  shift : Shift
  driver : Option Driver
  requests : List Request
  staff : List User
  deriving DecidableEq, Repr

def shiftDetail (s : Shift) : Operation ShiftDetail := do
  let driver ← Drivers.find? s.driverId
  let requests ← Requests.listOn s.id
  let staff ← Staffings.listOf s.id
  return { shift := s, driver, requests, staff }

/-- The details of shifts, one after the other. -/
def shiftDetails : List Shift → Operation (List ShiftDetail)
  | [] => return []
  | s :: rest => do
    let d ← shiftDetail s
    let ds ← shiftDetails rest
    return d :: ds

/-- Every shift with everything bound to it, in the order of departures. -/
def dashboard : Operation (List ShiftDetail) := do shiftDetails (← Shifts.list)

def pendingRequests : Operation (List Request) := Requests.listIn .pending

/-! ### Staff -/

/-- Lets a user accompany a shift; once more changes nothing. -/
def assignStaff (timeout shift user : Int) : Operation Unit := do
  let u ← existingUser user
  if !u.role.isStaffLike then fail (.notStaffRole user)
  else
    locking timeout do
      let _ ← orFail (.shiftNotFound shift) (← Shifts.lock shift)
      let _ ← Staffings.insert shift user
      return ()

/-- Ends that a user accompanies a shift, if it is so. -/
def removeStaff (timeout shift user : Int) : Operation Unit :=
  locking timeout do
    let _ ← orFail (.shiftNotFound shift) (← Shifts.lock shift)
    let _ ← Staffings.delete shift user
    return ()

/-! ### Drivers -/

/-- Refuses a profile without a name or a car, or with a negative limit. -/
def checkProfile (input : DriverInput) : Except DeskError Unit :=
  if (Text.trimmed input.name).isEmpty then .error (.invalidInput "name must not be empty")
  else if (Text.trimmed input.carModel).isEmpty then
    .error (.invalidInput "car_model must not be empty")
  else input.capacity.validate.mapError DeskError.ofRefusal

def listDrivers : Operation (List Driver) := Drivers.list

def createDriver (input : DriverInput) : Operation Driver := do
  ofExcept (checkProfile input)
  Drivers.insert input

def updateDriver (driver : Int) (input : DriverInput) : Operation Driver := do
  ofExcept (checkProfile input)
  orFail (.driverNotFound driver) (← Drivers.update driver input)

/-! ### Users -/

def listUsers : Operation (List User) := Users.list

/-- Gives a user who is no administrator another role. -/
def changeRole (user : Int) (role : Role) : Operation User := do
  let u ← existingUser user
  if u.role = .admin then fail (.cannotChangeAdmin user)
  else orFail (.userNotFound user) (← Users.setRole user role)

def setStaff (user : Int) : Operation User := changeRole user .staff

def unsetStaff (user : Int) : Operation User := changeRole user .student

end ShuttleDesk.Desk
