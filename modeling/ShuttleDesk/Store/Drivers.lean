/-
  ShuttleDesk/Store/Drivers.lean
  ==============================
  Statements about drivers.  No limit of a car is negative, and drivers are never
  deleted.
-/
import ShuttleDesk.Input.Operator
import ShuttleDesk.Store.Statement

namespace ShuttleDesk.Drivers

open Procedure Statement

def isAllowed (c : Capacity) : Bool := 0 ≤ c.maxSeats && 0 ≤ c.maxChecked && 0 ≤ c.maxCarryOn

def nextId : Statement Int := do
  change fun w => { w with issued := { w.issued with drivers := w.issued.drivers + 1 } }
  return (← world).issued.drivers

def ofInput (id : Int) (input : DriverInput) : Driver :=
  { id, name := input.name, carModel := input.carModel, capacity := input.capacity }

def insert (input : DriverInput) : Statement Driver := do
  checkArguments [.text input.name, .text input.carModel]
  let id ← nextId
  if isAllowed input.capacity then
    let driver := ofInput id input
    changeTables fun t => { t with drivers := t.drivers ++ [driver] }
    return driver
  else fail .brokenRule

def find? (id : Int) : Statement (Option Driver) := query (·.driver? id)

def list : Statement (List Driver) := query (·.drivers)

def update (id : Int) (input : DriverInput) : Statement (Option Driver) := do
  checkArguments [.text input.name, .text input.carModel]
  match ← find? id with
  | none => return none
  | some _ =>
    if isAllowed input.capacity then
      changeTables fun t =>
        { t with drivers := updateWhere (·.id == id) (fun _ => ofInput id input) t.drivers }
      return some (ofInput id input)
    else fail .brokenRule

end ShuttleDesk.Drivers
