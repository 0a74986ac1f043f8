/-
  ShuttleDesk/Desk/Call.lean
  ==========================
  Everything that can be asked of the desk, as one type.  A call carries its
  arguments, an answer carries what comes back, and performing a call changes the
  world.  Flights are looked up in the network that the call comes with.
-/
import ShuttleDesk.Desk.Assignment
import ShuttleDesk.Desk.FlightSync
import ShuttleDesk.Desk.Operators
import ShuttleDesk.Desk.Riders

namespace ShuttleDesk.Desk

/-- A call of the desk with its arguments. -/
inductive Call where
  | createRequest (rider : Int) (input : RequestInput)
  | listRequests (rider : Int)
  | editRequest (rider request : Int) (edit : RequestEdit)
  | assign (shift request : Int)
  | unassign (shift request : Int)
  | createShift (driver : Int) (departure : Calendar.DateTime)
  | updateShift (shift : Int) (change : ShiftChange)
  | publishShift (shift : Int)
  | dashboard
  | pendingRequests
  | assignStaff (shift user : Int)
  | removeStaff (shift user : Int)
  | listDrivers
  | createDriver (input : DriverInput)
  | updateDriver (driver : Int) (input : DriverInput)
  | listUsers
  | setStaff (user : Int)
  | unsetStaff (user : Int)
  | syncFlights (network : Flight.Network) (base : Option String) (date : Calendar.Date)

/-- What comes back from a call. -/
inductive Answer where
  | done
  | request (r : Request)
  | requests (rs : List Request)
  | riderRequests (rs : List RiderRequest)
  | assigned (warning : Option Warning)
  | shift (s : Shift)
  | published (shift : Int) (requests : Nat)
  | shifts (ds : List ShiftDetail)
  | driver (d : Driver)
  | drivers (ds : List Driver)
  | user (u : User)
  | users (us : List User)
  | synced (r : SyncReport)
  deriving DecidableEq, Repr

/-- Performs a call.  The lock timeout, in milliseconds, is for the calls that set one. -/
def Call.perform (timeout : Int) : Call → Operation Answer
  | createRequest rider input => Answer.request <$> Desk.createRequest rider input
  | listRequests rider => Answer.riderRequests <$> Desk.listRequests rider
  | editRequest rider request edit =>
    Answer.request <$> Desk.editRequest timeout rider request edit
  | assign shift request => Answer.assigned <$> Desk.assign timeout shift request
  | unassign shift request => (fun _ => Answer.done) <$> Desk.unassign timeout shift request
  | createShift driver departure => Answer.shift <$> Desk.createShift driver departure
  | updateShift shift change => Answer.shift <$> Desk.updateShift shift change
  | publishShift shift => Answer.published shift <$> Desk.publishShift timeout shift
  | dashboard => Answer.shifts <$> Desk.dashboard
  | pendingRequests => Answer.requests <$> Desk.pendingRequests
  | assignStaff shift user => (fun _ => Answer.done) <$> Desk.assignStaff timeout shift user
  | removeStaff shift user => (fun _ => Answer.done) <$> Desk.removeStaff timeout shift user
  | listDrivers => Answer.drivers <$> Desk.listDrivers
  | createDriver input => Answer.driver <$> Desk.createDriver input
  | updateDriver driver input => Answer.driver <$> Desk.updateDriver driver input
  | listUsers => Answer.users <$> Desk.listUsers
  | setStaff user => Answer.user <$> Desk.setStaff user
  | unsetStaff user => Answer.user <$> Desk.unsetStaff user
  | syncFlights network base date => Answer.synced <$> Desk.syncDate network base date

end ShuttleDesk.Desk
