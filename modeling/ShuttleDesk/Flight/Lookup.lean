/-
  ShuttleDesk/Flight/Lookup.lean
  ==============================
  Asking the provider about a flight.  The provider is whatever answers at an
  address: with a status and a body, or not at all.  An answer is used if its status
  is no error, its body can be read and its values make a refresh.
-/
import ShuttleDesk.Flight.Address
import ShuttleDesk.Flight.Refresh

namespace ShuttleDesk.Flight

/-- What comes back from an address. -/
inductive Reply where
  | nothing
  | answer (status : Nat) (body : Bytes)
  deriving DecidableEq, Repr

/-- What every address answers. -/
abbrev Network := Address → Reply

/-- Why a lookup gives no refresh. -/
inductive LookupFault where
  | badAddress
  | noAnswer
  | badStatus (status : Nat)
  | unreadable (m : Json.Misread)
  | refused (r : Refusal)
  deriving DecidableEq, Repr

/-- How a lookup ends. -/
inductive Lookup where
  | found (r : Refresh)
  | failed (f : LookupFault)
  | pickupPastCalendar
  deriving DecidableEq, Repr

def isErrorStatus (status : Nat) : Bool := 400 ≤ status && status ≤ 599

/-- Answers with this status have no body. -/
def hasNoBody (status : Nat) : Bool := status == 204 || status == 304

def Lookup.ofReply (flightNo : String) (date : Calendar.Date) : Reply → Lookup
  | .nothing => .failed .noAnswer
  | .answer status body =>
    if isErrorStatus status then .failed (.badStatus status)
    else
      match Info.read (if hasNoBody status then [] else body) with
      | .error m => .failed (.unreadable m)
      | .ok info =>
        match Refresh.ofInfo flightNo date info with
        | .ok r => .found r
        | .error (.refused r) => .failed (.refused r)
        | .error .pickupPastCalendar => .pickupPastCalendar

/-- The base of the provider's addresses, without slashes at the end; none if nothing is left. -/
def baseOf (url : Option String) : Option String :=
  (url.map fun s => String.ofList (s.toList.reverse.dropWhile (· = '/')).reverse).filter (· ≠ "")

/-- The address to ask, if the texts make one. -/
def addressFor? (base flightNo : String) (date : Calendar.Date) : Option Address :=
  Address.forFlight? base.toList flightNo.toList date

def lookup (network : Network) (base flightNo : String) (date : Calendar.Date) : Lookup :=
  match addressFor? base flightNo date with
  | none => .failed .badAddress
  | some a => Lookup.ofReply flightNo date (network a)

end ShuttleDesk.Flight
