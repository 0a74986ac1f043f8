/-
  ShuttleDesk/Proofs/Store/Changes.lean
  =====================================
  The changes that statements make to the tables, by name.  Each touches one table;
  an edit of requests or of a user's role also stamps the rows it writes.
-/
import ShuttleDesk.Store.Drivers
import ShuttleDesk.Store.Requests
import ShuttleDesk.Store.Shifts

namespace ShuttleDesk

/-- The refresh is of the flight of a request, and the flight still matters. -/
def Flight.Refresh.reaches (f : Flight.Refresh) (r : Request) : Bool :=
  r.flightNo == f.flightNo && Tables.awaitsFlight f.arrivalDate r

/-- A request after refreshes: each that reaches it is written onto it. -/
def Requests.refreshed (now : Calendar.WallClock) (fs : List Flight.Refresh) (r : Request) :
    Request :=
  fs.foldl (fun r f => if f.reaches r then { withRefresh f r with updatedAt := now } else r) r

/-- What a refresh does not write stays. -/
theorem Requests.refreshed_column {α : Type} {now : Calendar.WallClock} (column : Request → α)
    (h : ∀ f r, column { withRefresh f r with updatedAt := now } = column r)
    (fs : List Flight.Refresh) (r : Request) : column (refreshed now fs r) = column r := by
  induction fs generalizing r with
  | nil => rfl
  | cons f fs ih =>
    rw [refreshed, List.foldl_cons, ← refreshed, ih]
    split
    · exact h f r
    · rfl

/-- The columns of a request that a new request gives. -/
def Request.details (r : Request) : NewRequest where
  flightNo := r.flightNo
  arrivalDate := r.arrivalDate
  terminal := r.terminal
  checkedBags := r.checkedBags
  carryOnBags := r.carryOnBags
  arrivalTime := r.arrivalTime
  pickupBuffer := r.pickupBuffer
  calcPickupTime := r.calcPickupTime

/-- The request with other values in these columns. -/
def Request.withValues (v : NewRequest) (r : Request) : Request :=
  { r with
    flightNo := v.flightNo
    arrivalDate := v.arrivalDate
    terminal := v.terminal
    checkedBags := v.checkedBags
    carryOnBags := v.carryOnBags
    arrivalTime := v.arrivalTime
    pickupBuffer := v.pickupBuffer
    calcPickupTime := v.calcPickupTime }

namespace Tables

def addRequest (t : Tables) (r : Request) : Tables := { t with requests := t.requests ++ [r] }

/-- The requests that are chosen are edited and stamped. -/
def editRequests (t : Tables) (now : Calendar.WallClock) (chosen : Request → Bool)
    (edit : Request → Request) : Tables :=
  { t with requests := updateWhere chosen (fun r => { edit r with updatedAt := now }) t.requests }

def addShift (t : Tables) (s : Shift) : Tables := { t with shifts := t.shifts ++ [s] }

def editShift (t : Tables) (id : Int) (edit : Shift → Shift) : Tables :=
  { t with shifts := updateWhere (·.id == id) edit t.shifts }

/-- The shifts with an id are published; their requests are not touched. -/
def publishShift (t : Tables) (id : Int) : Tables :=
  t.editShift id fun s => { s with status := .published }

def addDriver (t : Tables) (d : Driver) : Tables := { t with drivers := t.drivers ++ [d] }

def setDriver (t : Tables) (id : Int) (input : DriverInput) : Tables :=
  { t with drivers := updateWhere (·.id == id) (fun _ => Drivers.ofInput id input) t.drivers }

def setRole (t : Tables) (now : Calendar.WallClock) (id : Int) (role : Role) : Tables :=
  { t with users := updateWhere (·.id == id) (fun u => { u with role, updatedAt := now }) t.users }

def bind (t : Tables) (shift request : Int) : Tables :=
  { t with bindings := t.bindings ++ [⟨shift, request⟩] }

def unbind (t : Tables) (shift request : Int) : Tables :=
  { t with bindings := t.bindings.filter (· ≠ ⟨shift, request⟩) }

def addStaff (t : Tables) (shift user : Int) : Tables :=
  { t with staffings := t.staffings ++ [⟨shift, user⟩] }

def removeStaff (t : Tables) (shift user : Int) : Tables :=
  { t with staffings := t.staffings.filter (· ≠ ⟨shift, user⟩) }

def setStatus (t : Tables) (now : Calendar.WallClock) (request : Int) (status : RequestStatus) :
    Tables :=
  t.editRequests now (·.id == request) fun r => { r with status }

def publishOn (t : Tables) (now : Calendar.WallClock) (shift : Int) : Tables :=
  t.editRequests now (fun r => t.isBound shift r.id) fun r => { r with status := .published }

def editDetails (t : Tables) (now : Calendar.WallClock) (details : Request) : Tables :=
  t.editRequests now (·.id == details.id) (Requests.withDetails details)

/-- An edit writes the values of the row that it has computed. -/
theorem editDetails_eq {t : Tables} {now : Calendar.WallClock} {details : Request} :
    t.editDetails now details =
      t.editRequests now (·.id == details.id) (Request.withValues details.details) := rfl

/-- A refresh is written onto the requests that it reaches. -/
def refresh (t : Tables) (now : Calendar.WallClock) (f : Flight.Refresh) : Tables :=
  t.editRequests now f.reaches (Requests.withRefresh f)

def refreshAll (t : Tables) (now : Calendar.WallClock) (fs : List Flight.Refresh) : Tables :=
  fs.foldl (fun t f => t.refresh now f) t

/-- What each refresh keeps is kept by all of them. -/
theorem refreshAll_induction {now : Calendar.WallClock} {fs : List Flight.Refresh}
    {p : Tables → Prop} (hstep : ∀ t, ∀ f ∈ fs, p t → p (t.refresh now f)) {t : Tables} (h : p t) :
    p (t.refreshAll now fs) := by
  induction fs generalizing t with
  | nil => exact h
  | cons f fs ih =>
    apply ih
    · intro t g hg
      exact hstep t g (List.mem_cons_of_mem _ hg)
    · exact hstep t f List.mem_cons_self h

/-- Refreshes change requests one by one, and nothing else. -/
theorem refreshAll_eq (t : Tables) (now : Calendar.WallClock) (fs : List Flight.Refresh) :
    t.refreshAll now fs = { t with requests := t.requests.map (Requests.refreshed now fs) } := by
  induction fs generalizing t with
  | nil =>
    have hnil : Requests.refreshed now [] = id := rfl
    rw [hnil, List.map_id]
    rfl
  | cons f fs ih =>
    have hstep : t.refreshAll now (f :: fs) = (t.refresh now f).refreshAll now fs := rfl
    rw [hstep, ih]
    simp only [refresh, editRequests, updateWhere, List.map_map]
    rfl

end Tables

namespace World

def withTables (w : World) (t : Tables) : World := { w with tables := t }

@[simp] theorem withTables_tables (w : World) (t : Tables) : (w.withTables t).tables = t := rfl

@[simp] theorem withTables_issued (w : World) (t : Tables) :
    (w.withTables t).issued = w.issued := rfl

@[simp] theorem withTables_now (w : World) (t : Tables) : (w.withTables t).now = w.now := rfl

@[simp] theorem withTables_isOpen (w : World) (t : Tables) :
    (w.withTables t).isOpen = w.isOpen := rfl

@[simp] theorem withTables_withTables (w : World) (t t' : Tables) :
    (w.withTables t).withTables t' = w.withTables t' := rfl

@[simp] theorem withTables_self (w : World) : w.withTables w.tables = w := rfl

def issueRequest (w : World) : World :=
  { w with issued := { w.issued with requests := w.issued.requests + 1 } }

def issueShift (w : World) : World :=
  { w with issued := { w.issued with shifts := w.issued.shifts + 1 } }

def issueDriver (w : World) : World :=
  { w with issued := { w.issued with drivers := w.issued.drivers + 1 } }

end World

end ShuttleDesk
