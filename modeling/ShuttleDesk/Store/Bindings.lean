/-
  ShuttleDesk/Store/Bindings.lean
  ===============================
  Statements about what is bound to shifts: requests, each to one shift at most, and
  staff.  Both ends of a binding exist.
-/
import ShuttleDesk.Store.Statement

namespace ShuttleDesk

open Procedure Statement

namespace Bindings

def pairConstraint : String := "shift_requests_pkey"

/-- The constraint that keeps a request on one shift. -/
def requestConstraint : String := "uq_shift_requests_request_id"

def insert (shift request : Int) : Statement Unit := do
  ensureOpen
  let t := (← world).tables
  if t.isBound shift request then fail (.duplicate pairConstraint)
  else if (t.bindingsOf request).length ≠ 0 then fail (.duplicate requestConstraint)
  else if (t.shift? shift).isNone || (t.request? request).isNone then fail .missingReference
  else changeTables fun t => { t with bindings := t.bindings ++ [⟨shift, request⟩] }

/-- Removes a binding; tells whether there was one. -/
def delete (shift request : Int) : Statement Bool := do
  ensureOpen
  let t := (← world).tables
  changeTables fun t => { t with bindings := t.bindings.filter (· ≠ ⟨shift, request⟩) }
  return t.isBound shift request

def shiftOf? (request : Int) : Statement (Option Int) :=
  query fun t => (t.bindingsOf request).head?.map (·.shiftId)

def countOf (request : Int) : Statement Nat := query fun t => (t.bindingsOf request).length

end Bindings

namespace Staffings

/-- Lets a user accompany a shift; tells whether that is new. -/
def insert (shift staff : Int) : Statement Bool := do
  ensureOpen
  let t := (← world).tables
  if t.staffings.contains ⟨shift, staff⟩ then return false
  else if (t.shift? shift).isNone || (t.user? staff).isNone then fail .missingReference
  else
    changeTables fun t => { t with staffings := t.staffings ++ [⟨shift, staff⟩] }
    return true

/-- Ends that a user accompanies a shift; tells whether that changes anything. -/
def delete (shift staff : Int) : Statement Bool := do
  ensureOpen
  let t := (← world).tables
  changeTables fun t => { t with staffings := t.staffings.filter (· ≠ ⟨shift, staff⟩) }
  return t.staffings.contains ⟨shift, staff⟩

/-- The staff of a shift in the order of their ids. -/
def listOf (shift : Int) : Statement (List User) := query (·.staffOf shift)

end Staffings

end ShuttleDesk
