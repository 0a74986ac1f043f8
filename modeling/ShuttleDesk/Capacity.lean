/-
  ShuttleDesk/Capacity.lean
  =========================
  What a driver's car holds, what a shift carries, and whether one more rider is
  too much.  A rider takes a seat and brings bags; staff take seats.  Reaching a
  limit is no overload, passing it is.
-/
import ShuttleDesk.Refusal

namespace ShuttleDesk

/-- The limits of a driver's car. -/
structure Capacity where
  maxSeats : Int
  maxChecked : Int
  maxCarryOn : Int
  deriving DecidableEq, Repr

/-- What is bound to a shift. -/
structure Load where
  boundRequests : Int
  staff : Int
  checkedBags : Int
  carryOnBags : Int
  deriving DecidableEq, Repr

/-- What a shift carries. -/
structure Totals where
  seats : Int
  checkedBags : Int
  carryOnBags : Int
  deriving DecidableEq, Repr

/-- What is said about an assignment that went through. -/
inductive Warning where
  | capacityOverload
  deriving DecidableEq, Repr

def Warning.name : Warning → String
  | .capacityOverload => "capacity_overload"

namespace Capacity

/-- No limit may be negative; the first that is, in order, is named. -/
def validate (c : Capacity) : Except Refusal Unit :=
  let check (name : String) (value : Int) : Except Refusal Unit :=
    if value < 0 then
      .error (.validation (name ++ " must be >= 0, got " ++ Numeral.text value))
    else .ok ()
  do
    check "max_seats" c.maxSeats
    check "max_checked" c.maxChecked
    check "max_carry_on" c.maxCarryOn

end Capacity

/-- The totals with one more rider and the rider's bags. -/
def Load.withRider (l : Load) (checkedBags carryOnBags : Int) : Totals :=
  { seats := l.boundRequests + 1 + l.staff
    checkedBags := l.checkedBags + checkedBags
    carryOnBags := l.carryOnBags + carryOnBags }

def Totals.exceeds (t : Totals) (c : Capacity) : Bool :=
  c.maxSeats < t.seats || c.maxChecked < t.checkedBags || c.maxCarryOn < t.carryOnBags

/-- The warning about totals, if they pass a limit. -/
def Totals.warning (t : Totals) (c : Capacity) : Option Warning :=
  if t.exceeds c then some .capacityOverload else none

end ShuttleDesk
