/-
  ShuttleDesk/Web/Failure.lean
  ============================
  How errors are answered over the web: a status, a stable code and a message.  An
  error of the store says nothing of its own but the name of a unique constraint
  that was made to be shown.
-/
import ShuttleDesk.Desk.Error

namespace ShuttleDesk.Web

/-- An error as it is answered. -/
structure Failure where
  status : Nat
  code : String
  message : String
  deriving DecidableEq, Repr

namespace Failure

/-- The answer to an error nobody can do anything about. -/
def internal : Failure := ⟨500, "INTERNAL_ERROR", "An internal error occurred"⟩

def ofRefusal : Refusal → Failure
  | .validation reason => ⟨400, "INVALID_INPUT", reason⟩
  | .unauthorized reason => ⟨401, "UNAUTHORIZED", reason⟩
  | .forbidden reason => ⟨403, "FORBIDDEN", reason⟩

def isShown (constraint : String) : Bool := "uq_".toList.isPrefixOf constraint.toList

def ofStorage : StorageError → Failure
  | .rowNotFound => ⟨404, "NOT_FOUND", "Resource not found"⟩
  | .database (some state) (some constraint) =>
    if state = StorageError.uniqueState ∧ isShown constraint then
      ⟨409, "CONFLICT", "Duplicate value violates unique constraint: " ++ constraint⟩
    else internal
  | _ => internal

def ofDesk (e : DeskError) : Failure :=
  match e with
  | .transient _ => ⟨503, e.code, "The resource is busy, please retry"⟩
  | .database cause => ofStorage cause
  | _ => ⟨400, e.code, e.message?.getD ""⟩

end Failure
end ShuttleDesk.Web
