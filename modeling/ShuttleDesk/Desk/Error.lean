/-
  ShuttleDesk/Desk/Error.lean
  ===========================
  Why an operation of the desk fails.  A mistake of the caller has its own kind and
  text; an error of the store is either transient, so that the operation may be
  tried again as it is, or not.
-/
import ShuttleDesk.Refusal
import ShuttleDesk.Store.Error

namespace ShuttleDesk

/-- Why an operation fails. -/
inductive DeskError where
  | alreadyHasRequest
  | invalidInput (reason : String)
  | notFound (request : Int)
  | invalidState (reason : String)
  | shiftNotFound (shift : Int)
  | requestNotFound (request : Int)
  | requestNotPending (request : Int)
  | requestAlreadyBound (request : Int)
  | bindingNotFound (shift request : Int)
  | driverNotFound (driver : Int)
  | userNotFound (user : Int)
  | noFieldsToUpdate
  | notStaffRole (user : Int)
  | cannotChangeAdmin (user : Int)
  | transient (cause : StorageError)
  | database (cause : StorageError)
  deriving DecidableEq, Repr

namespace DeskError

def code : DeskError → String
  | alreadyHasRequest => "ALREADY_HAS_REQUEST"
  | invalidInput _ => "INVALID_INPUT"
  | notFound _ => "NOT_FOUND"
  | invalidState _ => "INVALID_STATE"
  | shiftNotFound _ => "SHIFT_NOT_FOUND"
  | requestNotFound _ => "REQUEST_NOT_FOUND"
  | requestNotPending _ => "REQUEST_NOT_PENDING"
  | requestAlreadyBound _ => "REQUEST_ALREADY_BOUND"
  | bindingNotFound _ _ => "BINDING_NOT_FOUND"
  | driverNotFound _ => "DRIVER_NOT_FOUND"
  | userNotFound _ => "USER_NOT_FOUND"
  | noFieldsToUpdate => "NO_FIELDS_TO_UPDATE"
  | notStaffRole _ => "NOT_STAFF_ROLE"
  | cannotChangeAdmin _ => "CANNOT_CHANGE_ADMIN"
  | transient _ => "RETRYABLE"
  | database _ => "INTERNAL_ERROR"

def cause? : DeskError → Option StorageError
  | transient e | database e => some e
  | _ => none

/-- The error in words; an error of the store has none of its own. -/
def message? : DeskError → Option String
  | alreadyHasRequest => some "User already has a request"
  | invalidInput reason => some ("Invalid input: " ++ reason)
  | notFound id | requestNotFound id => some ("Request " ++ Numeral.text id ++ " not found")
  | invalidState reason => some ("Invalid state: " ++ reason)
  | shiftNotFound id => some ("Shift " ++ Numeral.text id ++ " not found")
  | requestNotPending id => some ("Request " ++ Numeral.text id ++ " is not pending")
  | requestAlreadyBound id =>
    some ("Request " ++ Numeral.text id ++ " is already bound to a shift")
  | bindingNotFound shift request =>
    some ("Request " ++ Numeral.text request ++ " is not bound to shift " ++ Numeral.text shift)
  | driverNotFound id => some ("Driver " ++ Numeral.text id ++ " not found")
  | userNotFound id => some ("User " ++ Numeral.text id ++ " not found")
  | noFieldsToUpdate => some "No fields to update"
  | notStaffRole id => some ("User " ++ Numeral.text id ++ " is not staff")
  | cannotChangeAdmin id => some ("Cannot change the role of admin user " ++ Numeral.text id)
  | transient _ | database _ => none

def isCallerError (e : DeskError) : Bool := e.cause?.isNone

def isRetryable : DeskError → Bool
  | transient _ => true
  | _ => false

/-- What an error of the store means for the operation. -/
def ofStorage (e : StorageError) : DeskError :=
  if e.isTransient then transient e else database e

def ofRefusal : Refusal → DeskError
  | .validation reason => invalidInput reason
  | r => invalidState r.message

end DeskError
end ShuttleDesk
