/-
  ShuttleDesk/Desk/Operation.lean
  ===============================
  Operations of the desk: procedures that fail with errors of the desk.  A statement of
  the store stands in an operation as it is, its error being classified.  Statements
  that belong together run in one transaction, and where rows are locked (`locking`) it
  first sets how long it waits for them.
-/
import ShuttleDesk.Desk.Error
import ShuttleDesk.Store.Statement

namespace ShuttleDesk

/-- What the desk does for a caller. -/
abbrev Operation (α : Type) := Procedure DeskError α

instance : MonadLift (Procedure StorageError) (Procedure DeskError) where
  monadLift x := x.mapError DeskError.ofStorage

/-- A statement in an operation has its error classified. -/
theorem lift_eq_mapError {α : Type} (x : Statement α) :
    (liftM x : Operation α) = x.mapError DeskError.ofStorage := rfl

/-- A statement in an operation answers as it does by itself. -/
theorem lift_ok_iff {α : Type} {x : Statement α} {w w' : World} {a : α} :
    (liftM x : Operation α) w = (.ok a, w') ↔ x w = (.ok a, w') :=
  Procedure.mapError_ok_iff

namespace Operation

open Procedure

/-- Runs as a whole, waiting for held rows at most so many milliseconds. -/
def locking {α : Type} (timeout : Int) (x : Operation α) : Operation α :=
  transaction do
    Statement.setLockTimeout timeout
    x

def accepted {α : Type} (x : Except Refusal α) : Operation α :=
  ofExcept (x.mapError DeskError.ofRefusal)

def inCalendar {α : Type} (x : Option α) : Operation α :=
  match x with
  | some a => return a
  | none => overflow

end Operation
end ShuttleDesk
