/-
  ShuttleDesk/View.lean
  =====================
  How rows and results are shown: as objects whose members are named like the
  columns.  Dates and times are texts, and audit times end with a `Z`.
-/
import ShuttleDesk.Desk.Call
import ShuttleDesk.Json.Value

namespace ShuttleDesk

open Json (Value)

def auditTime (t : Calendar.WallClock) : Value := .string (t.text ++ "Z")

def localTime (t : Calendar.WallClock) : Value := .string t.text

/-- A local time, or null. -/
def localTime? (t : Option Calendar.WallClock) : Value := (t.map localTime).getD .null

/-- A value, or null. -/
def optional {α : Type} (view : α → Value) (x : Option α) : Value := (x.map view).getD .null

def Driver.view (d : Driver) : Value := .object [
  ("id", .integer d.id),
  ("name", .string d.name),
  ("car_model", .string d.carModel),
  ("max_seats", .integer d.capacity.maxSeats),
  ("max_checked", .integer d.capacity.maxChecked),
  ("max_carry_on", .integer d.capacity.maxCarryOn)]

def User.view (u : User) : Value := .object [
  ("id", .integer u.id),
  ("open_id", .string u.openId),
  ("name", .string u.name),
  ("phone", .ofString? u.phone),
  ("role", .string u.role.name),
  ("created_at", auditTime u.createdAt),
  ("updated_at", auditTime u.updatedAt)]

def Request.members (r : Request) : List (String × Value) := [
  ("id", .integer r.id),
  ("user_id", .integer r.userId),
  ("flight_no", .string r.flightNo),
  ("arrival_date", .string r.arrivalDate.text),
  ("terminal", .string r.terminal),
  ("checked_bags", .integer r.checkedBags),
  ("carry_on_bags", .integer r.carryOnBags),
  ("status", .string r.status.name),
  ("arrival_time_api", localTime? r.arrivalTime),
  ("pickup_buffer", .integer r.pickupBuffer),
  ("calc_pickup_time", localTime? r.calcPickupTime),
  ("created_at", auditTime r.createdAt),
  ("updated_at", auditTime r.updatedAt)]

def Request.view (r : Request) : Value := .object r.members

def Shift.members (s : Shift) : List (String × Value) := [
  ("id", .integer s.id),
  ("driver_id", .integer s.driverId),
  ("departure_time", localTime s.departureTime),
  ("status", .string s.status.name),
  ("created_at", auditTime s.createdAt)]

def Shift.view (s : Shift) : Value := .object s.members

def ShiftSummary.view (s : ShiftSummary) : Value := .object [
  ("id", .integer s.id),
  ("departure_time", localTime s.departureTime),
  ("status", .string s.status.name),
  ("driver_id", .integer s.driverId),
  ("driver_name", .string s.driverName),
  ("car_model", .string s.carModel)]

namespace Desk

/-- A request as its rider sees it: the shift stands beside its columns. -/
def RiderRequest.view (r : RiderRequest) : Value :=
  .object (r.request.members ++ [("shift", optional ShiftSummary.view r.shift)])

/-- A shift with everything bound to it beside its columns. -/
def ShiftDetail.view (d : ShiftDetail) : Value :=
  .object (d.shift.members ++ [
    ("driver", optional Driver.view d.driver),
    ("requests", .list (d.requests.map Request.view)),
    ("staffs", .list (d.staff.map User.view))])

/-- The result of an assignment: a warning, if there is one. -/
def assignmentView (w : Option Warning) : Value :=
  .object (w.toList.map fun w => ("warning", .string w.name))

def SyncReport.view (r : SyncReport) : Value := .object [
  ("skipped", .bool r.skipped),
  ("flights_checked", .integer r.flightsChecked),
  ("flights_failed", .integer r.flightsFailed),
  ("requests_updated", .integer r.requestsUpdated)]

def Answer.view : Answer → Value
  | .done => .object []
  | .request r => r.view
  | .requests rs => .list (rs.map Request.view)
  | .riderRequests rs => .list (rs.map RiderRequest.view)
  | .assigned w => assignmentView w
  | .shift s => s.view
  | .published id n => .object [("shift_id", .integer id), ("published_requests", .integer n)]
  | .shifts ds => .list (ds.map ShiftDetail.view)
  | .driver d => d.view
  | .drivers ds => .list (ds.map Driver.view)
  | .user u => u.view
  | .users us => .list (us.map User.view)
  | .synced r => r.view

end Desk
end ShuttleDesk
