/-
  ShuttleDesk/Desk/FlightSync.lean
  ================================
  Bringing flights up to date.  Every flight that still matters on a day is asked
  about once, in the order of the flight numbers.  Lookups that fail are counted and
  left out; the others are written onto their requests in one transaction.
-/
import ShuttleDesk.Desk.Operation
import ShuttleDesk.Flight.Lookup
import ShuttleDesk.Store.Requests

namespace ShuttleDesk.Desk

open Procedure Flight

/-- What a pass has done. -/
structure SyncReport where
  skipped : Bool
  flightsChecked : Nat
  flightsFailed : Nat
  requestsUpdated : Nat
  deriving DecidableEq, Repr

/-- The pass that is not made because there is no provider. -/
def SyncReport.skip : SyncReport := ⟨true, 0, 0, 0⟩

def refreshesOf (lookups : List Lookup) : List Refresh :=
  lookups.filterMap fun
    | .found r => some r
    | _ => none

def isFailed : Lookup → Bool
  | .failed _ => true
  | _ => false

def isPastCalendar : Lookup → Bool
  | .pickupPastCalendar => true
  | _ => false

/-- Writes refreshes, one after the other, and returns how many rows they changed. -/
def applyAll : List Refresh → Operation Nat
  | [] => return 0
  | r :: rest => do
    let n ← Requests.applyRefresh r
    let m ← applyAll rest
    return n + m

/-- Writes refreshes in one transaction, if there are any.  No lock timeout is set in it. -/
def writeRefreshes (refreshes : List Refresh) : Operation Nat :=
  if refreshes.isEmpty then return 0 else transaction (applyAll refreshes)

/-- Brings the flights of a day up to date. -/
def syncDate (network : Network) (base : Option String) (date : Calendar.Date) :
    Operation SyncReport := do
  match baseOf base with
  | none => return .skip
  | some base =>
    let flights ← Requests.flightsOn date
    let lookups := flights.map fun f => lookup network base f date
    if lookups.any isPastCalendar then overflow
    else
      let updated ← writeRefreshes (refreshesOf lookups)
      return {
        skipped := false
        flightsChecked := flights.length
        flightsFailed := (lookups.filter isFailed).length
        requestsUpdated := updated }

/-! ### What is asked -/

/-- The flights that are looked up, in order: a pickup past the calendar is the last. -/
def lookedUp (network : Network) (base : String) (date : Calendar.Date) :
    List String → List String
  | [] => []
  | f :: fs =>
    if isPastCalendar (lookup network base f date) then [f]
    else f :: lookedUp network base date fs

/-- The addresses that a pass asks, in order; none without a provider or if the flights cannot
be read. -/
def asked (network : Network) (base : Option String) (date : Calendar.Date) (w : World) :
    List Address :=
  match baseOf base, (Requests.flightsOn date w).1 with
  | some base, .ok flights =>
    (lookedUp network base date flights).filterMap fun f => addressFor? base f date
  | _, _ => []

theorem lookedUp_eq_self {network : Network} {base : String} {date : Calendar.Date}
    {flights : List String}
    (h : ∀ f ∈ flights, isPastCalendar (lookup network base f date) = false) :
    lookedUp network base date flights = flights := by
  induction flights with
  | nil => rfl
  | cons f fs ih =>
    have hf := h f (by simp)
    rw [lookedUp, hf, ih fun g hg => h g (by simp [hg])]
    rfl

/-! ### The pass that the desk makes by itself -/

/-- The world after a pass over the flights of today, whatever comes of it. -/
def backgroundPass (network : Network) (base : Option String) (today : Calendar.Date)
    (w : World) : World :=
  (syncDate network base today w).2

end ShuttleDesk.Desk
