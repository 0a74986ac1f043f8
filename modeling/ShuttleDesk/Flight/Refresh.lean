/-
  ShuttleDesk/Flight/Refresh.lean
  ===============================
  What the flight provider says about a flight, and what becomes of it: the
  terminal without blanks around it, the arrival, and the pickup that follows.
  Terminal and arrival must be usable; the flight number the provider repeats is
  not looked at.
-/
import ShuttleDesk.Json.Record
import ShuttleDesk.Pickup
import ShuttleDesk.Refusal

namespace ShuttleDesk.Flight

/-- What the provider says. -/
structure Info where
  flightNo : Option String
  terminal : String
  arrivalTime : String
  deriving DecidableEq, Repr

namespace Info

def shape : Json.Shape where
  name := "FlightInfo"
  fields := [
    .withDefault "flight_no" (Json.Scan.optional Json.Scan.text) none,
    .required "terminal" Json.Scan.text,
    .required "arrival_time" Json.Scan.text]

def ofValues : Json.Values shape.fields → Info
  | (flightNo, terminal, arrivalTime, ()) => { flightNo, terminal, arrivalTime }

def read (bs : Bytes) : Except Json.Misread Info := (Json.readWhole shape bs).map ofValues

end Info

/-- What is written onto the requests of a flight. -/
structure Refresh where
  flightNo : String
  arrivalDate : Calendar.Date
  terminal : String
  arrivalTime : Calendar.DateTime
  pickupBuffer : Int
  calcPickupTime : Calendar.DateTime
  deriving DecidableEq, Repr

/-- Why an answer makes no refresh. -/
inductive Unusable where
  | refused (r : Refusal)
  | pickupPastCalendar
  deriving DecidableEq, Repr

def Refresh.ofInfo (flightNo : String) (date : Calendar.Date) (info : Info) :
    Except Unusable Refresh :=
  let terminal := Text.trimmed info.terminal
  if terminal.isEmpty then
    .error (.refused (.validation "terminal must not be empty"))
  else
    match readDateTime "arrival_time" info.arrivalTime with
    | .error r => .error (.refused r)
    | .ok arrivalTime =>
      let pickupBuffer := Pickup.bufferFor terminal
      match Pickup.time? arrivalTime pickupBuffer with
      | none => .error .pickupPastCalendar
      | some calcPickupTime =>
        .ok { flightNo, arrivalDate := date, terminal, arrivalTime, pickupBuffer,
              calcPickupTime }

end ShuttleDesk.Flight
