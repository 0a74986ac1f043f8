/-
  ShuttleDesk/Store/Tables.lean
  =============================
  The six tables, what is looked up in them, and what a request or a shift is bound
  to.  A table is the list of its rows in the order of their insertion, which for
  tables with ids is the order of the ids.
-/
import ShuttleDesk.Store.Row

namespace ShuttleDesk

/-- The six tables. -/
structure Tables where
  users : List User
  drivers : List Driver
  requests : List Request
  shifts : List Shift
  bindings : List Binding
  staffings : List Staffing
  deriving DecidableEq, Repr

/-- Changes the rows of a table that are chosen. -/
def updateWhere {α : Type} (chosen : α → Bool) (change : α → α) (rows : List α) : List α :=
  rows.map fun r => if chosen r then change r else r

theorem mem_updateWhere {α : Type} {chosen : α → Bool} {change : α → α} {rows : List α} {r : α} :
    r ∈ updateWhere chosen change rows ↔
      (∃ s ∈ rows, chosen s = true ∧ change s = r) ∨ (r ∈ rows ∧ chosen r = false) := by
  simp only [updateWhere, List.mem_map]
  constructor
  · rintro ⟨s, hs, rfl⟩
    by_cases h : chosen s = true
    · exact .inl ⟨s, hs, h, by simp [h]⟩
    · simp only [Bool.not_eq_true] at h
      exact .inr (by simp [h, hs])
  · rintro (⟨s, hs, h, rfl⟩ | ⟨hr, h⟩)
    · exact ⟨s, hs, by simp [h]⟩
    · exact ⟨r, hr, by simp [h]⟩

namespace Tables

def empty : Tables := ⟨[], [], [], [], [], []⟩

/-! ### Rows by id -/

def user? (t : Tables) (id : Int) : Option User := t.users.find? (·.id == id)

def driver? (t : Tables) (id : Int) : Option Driver := t.drivers.find? (·.id == id)

def request? (t : Tables) (id : Int) : Option Request := t.requests.find? (·.id == id)

def shift? (t : Tables) (id : Int) : Option Shift := t.shifts.find? (·.id == id)

/-! ### Views -/

def requestsOf (t : Tables) (user : Int) : List Request :=
  t.requests.filter (·.userId == user)

def requestsIn (t : Tables) (status : RequestStatus) : List Request :=
  t.requests.filter (·.status == status)

def isBound (t : Tables) (shift request : Int) : Bool := t.bindings.contains ⟨shift, request⟩

def requestsOn (t : Tables) (shift : Int) : List Request :=
  t.requests.filter fun r => t.isBound shift r.id

def bindingsOn (t : Tables) (shift : Int) : List Binding :=
  t.bindings.filter (·.shiftId == shift)

def bindingsOf (t : Tables) (request : Int) : List Binding :=
  t.bindings.filter (·.requestId == request)

def staffOf (t : Tables) (shift : Int) : List User :=
  t.users.filter fun u => t.staffings.contains ⟨shift, u.id⟩

/-- The requests that the bindings of a shift name, once for each binding. -/
def boundRows (t : Tables) (shift : Int) : List Request :=
  (t.bindingsOn shift).flatMap fun b => t.requests.filter (·.id == b.requestId)

def total (count : Request → Int) (rs : List Request) : Int :=
  rs.foldr (fun r n => count r + n) 0

/-- What is bound to a shift. -/
def load (t : Tables) (shift : Int) : Load where
  boundRequests := (t.bindingsOn shift).length
  staff := (t.staffings.filter (·.shiftId == shift)).length
  checkedBags := total (·.checkedBags) (t.boundRows shift)
  carryOnBags := total (·.carryOnBags) (t.boundRows shift)

/-- A binding with its shift and driver, for the rider. -/
def summaryOf (t : Tables) (b : Binding) : Option (Int × ShiftSummary) := do
  let s ← t.shift? b.shiftId
  let d ← t.driver? s.driverId
  return (b.requestId, {
    id := s.id
    departureTime := s.departureTime
    status := s.status
    driverId := d.id
    driverName := d.name
    carModel := d.carModel })

def summaries (t : Tables) (requests : List Int) : List (Int × ShiftSummary) :=
  (t.bindings.filter fun b => requests.contains b.requestId).filterMap t.summaryOf

/-- The flight still matters: its request arrives on the day and is not published. -/
def awaitsFlight (date : Calendar.Date) (r : Request) : Bool :=
  r.arrivalDate == date && r.status.isOpen

/-- The numbers of the flights that still matter on a day, each once, in the order of texts. -/
def flightsOn (t : Tables) (date : Calendar.Date) : List String :=
  (((t.requests.filter (awaitsFlight date)).map (·.flightNo)).eraseDups).mergeSort
    fun a b => decide (¬ b < a)

end Tables
end ShuttleDesk
