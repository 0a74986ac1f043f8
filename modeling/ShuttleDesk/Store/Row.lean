/-
  ShuttleDesk/Store/Row.lean
  ==========================
  The rows of the desk's six tables.  Times of day are stored as counts of seconds;
  a row whose times lie outside the calendar cannot be read back.
-/
import ShuttleDesk.Capacity
import ShuttleDesk.Status

namespace ShuttleDesk

open Calendar (Date WallClock)

/-- A user of the desk. -/
structure User where
  id : Int
  openId : String
  name : String
  phone : Option String
  role : Role
  createdAt : WallClock
  updatedAt : WallClock
  deriving DecidableEq, Repr

/-- A driver and the limits of the driver's car. -/
structure Driver where
  id : Int
  name : String
  carModel : String
  capacity : Capacity
  deriving DecidableEq, Repr

/-- A rider's request to be picked up. -/
structure Request where
  id : Int
  userId : Int
  flightNo : String
  arrivalDate : Date
  terminal : String
  checkedBags : Int
  carryOnBags : Int
  status : RequestStatus
  arrivalTime : Option WallClock
  pickupBuffer : Int
  calcPickupTime : Option WallClock
  createdAt : WallClock
  updatedAt : WallClock
  deriving DecidableEq, Repr

/-- A departure of a driver. -/
structure Shift where
  id : Int
  driverId : Int
  departureTime : WallClock
  status : ShiftStatus
  createdAt : WallClock
  deriving DecidableEq, Repr

/-- A request bound to a shift. -/
structure Binding where
  shiftId : Int
  requestId : Int
  deriving DecidableEq, Repr

/-- A user who accompanies a shift. -/
structure Staffing where
  shiftId : Int
  staffId : Int
  deriving DecidableEq, Repr

def Request.isReadable (r : Request) : Bool :=
  r.arrivalTime.all WallClock.isReadable && r.calcPickupTime.all WallClock.isReadable

def Shift.isReadable (s : Shift) : Bool := s.departureTime.isReadable

/-- The shift of a published request as its rider sees it. -/
structure ShiftSummary where
  id : Int
  departureTime : WallClock
  status : ShiftStatus
  driverId : Int
  driverName : String
  carModel : String
  deriving DecidableEq, Repr

/-- The values of a request that is inserted. -/
structure NewRequest where
  flightNo : String
  arrivalDate : Date
  terminal : String
  checkedBags : Int
  carryOnBags : Int
  arrivalTime : Option WallClock
  pickupBuffer : Int
  calcPickupTime : Option WallClock
  deriving DecidableEq, Repr

/-- The changes of a shift; what is absent stays as it is. -/
structure ShiftPatch where
  driverId : Option Int
  departureTime : Option WallClock
  deriving DecidableEq, Repr

def ShiftPatch.isEmpty (p : ShiftPatch) : Bool := p.driverId.isNone && p.departureTime.isNone

def ShiftPatch.apply (p : ShiftPatch) (s : Shift) : Shift :=
  { s with
    driverId := p.driverId.getD s.driverId
    departureTime := p.departureTime.getD s.departureTime }

end ShuttleDesk
