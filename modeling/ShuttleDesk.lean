import ShuttleDesk.Desk.Journal
import ShuttleDesk.Settings
import ShuttleDesk.Web.Router
import ShuttleDesk.Proofs.Store.Changes
import ShuttleDesk.Proofs.Store.Answers
import ShuttleDesk.Proofs.Desk.Answers
import ShuttleDesk.Proofs.Store.Atomic
import ShuttleDesk.Proofs.Calendar.DayCount
import ShuttleDesk.Proofs.Store.Constraints
import ShuttleDesk.Proofs.Desk.Atomic
import ShuttleDesk.Proofs.Desk.Effect
import ShuttleDesk.Proofs.Desk.Sound
import ShuttleDesk.Proofs.Desk.Booking
import ShuttleDesk.Proofs.Desk.BindingHistory
import ShuttleDesk.Proofs.Desk.Overload
import ShuttleDesk.Proofs.Desk.Progress
import ShuttleDesk.Proofs.Desk.Timing
import ShuttleDesk.Proofs.Desk.RiderView
import ShuttleDesk.Proofs.Store.Alike
import ShuttleDesk.Proofs.Web.Admission
import ShuttleDesk.Proofs.Web.Privacy
import ShuttleDesk.Proofs.Web.Confinement
import ShuttleDesk.Proofs.Desk.Republication
import ShuttleDesk.Proofs.Desk.FlightIsolation
import ShuttleDesk.Proofs.Desk.StaffRoles
import ShuttleDesk.Proofs.Desk.FlightPass
import ShuttleDesk.Proofs.Desk.LoadHistory
import ShuttleDesk.Proofs.Desk.EditMerge
import ShuttleDesk.Proofs.Desk.OperatorView
import ShuttleDesk.Proofs.Desk.SoleRequest
import ShuttleDesk.Proofs.Desk.StoredRules
import ShuttleDesk.Proofs.Desk.OverloadHistory
import ShuttleDesk.Proofs.Flight.Naming
import ShuttleDesk.Proofs.Store.Contention
import ShuttleDesk.Proofs.Store.Stops
import ShuttleDesk.Proofs.Desk.Contention
import ShuttleDesk.Proofs.Desk.BindingOutcome
import ShuttleDesk.Proofs.Desk.Intake
import ShuttleDesk.Proofs.Web.Denial
import ShuttleDesk.Proofs.Desk.Publication
import ShuttleDesk.Proofs.Web.StrayBinding
import ShuttleDesk.Proofs.Desk.BindingInverse
import ShuttleDesk.Proofs.Desk.AssignmentOrder
import ShuttleDesk.Proofs.Desk.FlightRepetition
import ShuttleDesk.Proofs.Calendar.Forms
import ShuttleDesk.Proofs.Calendar.Reading
import ShuttleDesk.Proofs.Desk.StoredArrival
import ShuttleDesk.Proofs.Web.Classification
import ShuttleDesk.Proofs.Web.ErrorBodies
import ShuttleDesk.Proofs.Json.Written
import ShuttleDesk.Proofs.Token.Letters
import ShuttleDesk.Proofs.Token.RoundTrip
import ShuttleDesk.Proofs.Calendar.Printing
import ShuttleDesk.Proofs.Calendar.Clock
import ShuttleDesk.Proofs.Desk.HeldRows
import ShuttleDesk.Proofs.Desk.LockTimeout
