/-
  ShuttleDesk/Input/Operator.lean
  ===============================
  What operators send: a driver's profile, a user, a shift, an edit of a shift, and
  the one id that an action on a shift takes.
-/
import ShuttleDesk.Capacity
import ShuttleDesk.Json.Record
import ShuttleDesk.Status

namespace ShuttleDesk

open Json (Shape)

/-- A driver's profile as it is sent. -/
structure DriverInput where
  name : String
  carModel : String
  capacity : Capacity
  deriving DecidableEq, Repr

/-- A user as it is sent. -/
structure UserInput where
  openId : String
  name : String
  phone : Option String
  role : Option Role
  deriving DecidableEq, Repr

/-- A new shift as it is sent. -/
structure ShiftInput where
  driverId : Int
  departureTime : String
  deriving DecidableEq, Repr

/-- An edit of a shift as it is sent. -/
structure ShiftEditInput where
  driverId : Option Int
  departureTime : Option String
  deriving DecidableEq, Repr

namespace DriverInput

def shape : Shape where
  name := "DriverInput"
  fields := [
    .required "name" Json.Scan.text,
    .required "car_model" Json.Scan.text,
    .required "max_seats" Json.Scan.int32,
    .required "max_checked" Json.Scan.int32,
    .required "max_carry_on" Json.Scan.int32]

def ofValues : Json.Values shape.fields → DriverInput
  | (name, carModel, maxSeats, maxChecked, maxCarryOn, ()) =>
    { name, carModel, capacity := { maxSeats, maxChecked, maxCarryOn } }

def read (bs : Bytes) : Except Json.Misread DriverInput :=
  (Json.readWhole shape bs).map ofValues

end DriverInput

namespace UserInput

def shape : Shape where
  name := "CreateUser"
  fields := [
    .required "open_id" Json.Scan.text,
    .required "name" Json.Scan.text,
    .nullable "phone" Json.Scan.text,
    .nullable "role" (Json.Scan.variant Role.known)]

def ofValues : Json.Values shape.fields → UserInput
  | (openId, name, phone, role, ()) => { openId, name, phone, role }

def read (bs : Bytes) : Except Json.Misread UserInput :=
  (Json.readWhole shape bs).map ofValues

end UserInput

namespace ShiftInput

def shape : Shape where
  name := "CreateShiftBody"
  fields := [
    .required "driver_id" Json.Scan.int64,
    .required "departure_time" Json.Scan.text]

def ofValues : Json.Values shape.fields → ShiftInput
  | (driverId, departureTime, ()) => { driverId, departureTime }

def read (bs : Bytes) : Except Json.Misread ShiftInput :=
  (Json.readWhole shape bs).map ofValues

end ShiftInput

namespace ShiftEditInput

def shape : Shape where
  name := "UpdateShiftBody"
  fields := [
    .nullable "driver_id" Json.Scan.int64,
    .nullable "departure_time" Json.Scan.text]

def ofValues : Json.Values shape.fields → ShiftEditInput
  | (driverId, departureTime, ()) => { driverId, departureTime }

def read (bs : Bytes) : Except Json.Misread ShiftEditInput :=
  (Json.readWhole shape bs).map ofValues

end ShiftEditInput

namespace BoundId

/-- The record that names the request of an action. -/
def requestShape : Shape where
  name := "StudentBody"
  fields := [.required "request_id" Json.Scan.int64]

/-- The record that names the staff member of an action. -/
def staffShape : Shape where
  name := "StaffBody"
  fields := [.required "staff_id" Json.Scan.int64]

def readRequest (bs : Bytes) : Except Json.Misread Int :=
  (Json.readWhole requestShape bs).map fun (vs : Int × Unit) => vs.1

def readStaff (bs : Bytes) : Except Json.Misread Int :=
  (Json.readWhole staffShape bs).map fun (vs : Int × Unit) => vs.1

end BoundId

end ShuttleDesk
