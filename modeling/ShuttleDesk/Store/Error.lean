/-
  ShuttleDesk/Store/Error.lean
  ============================
  What the store answers when it cannot do as asked.  An error of the database
  itself has a five-character state and, if a constraint was broken, its name.
-/
namespace ShuttleDesk

/-- An error of the store. -/
inductive StorageError where
  | poolTimedOut
  | poolClosed
  | rowNotFound
  | workerCrashed
  | protocol
  | database (state : Option String) (constraint : Option String)
  deriving DecidableEq, Repr

namespace StorageError

def ofState (state : String) : StorageError := database (some state) none

def lockNotAvailable : StorageError := ofState "55P03"

def invalidSetting : StorageError := ofState "22023"

def invalidText : StorageError := ofState "22021"

def timeTooEarly : StorageError := ofState "22008"

def missingReference : StorageError := ofState "23503"

def brokenRule : StorageError := ofState "23514"

/-- The state of an error that a unique constraint raises. -/
def uniqueState : String := "23505"

def duplicate (constraint : String) : StorageError := database (some uniqueState) (some constraint)

/-- The states of conflicts that another try may resolve. -/
def transientStates : List String := ["55P03", "40P01", "40001"]

def isTransient : StorageError → Bool
  | poolTimedOut => true
  | database (some state) _ => transientStates.contains state
  | _ => false

end StorageError
end ShuttleDesk
