/-
  ShuttleDesk/Refusal.lean
  ========================
  Refusals that need no stored data: an input breaks a rule, the caller is unknown,
  or the caller may not do this.  Readings of dates name the field and quote what
  was given.
-/
import ShuttleDesk.Calendar.Reading

namespace ShuttleDesk

/-- Why something is refused outright. -/
inductive Refusal where
  | validation (reason : String)
  | unauthorized (reason : String)
  | forbidden (reason : String)
  deriving DecidableEq, Repr

namespace Refusal

def message : Refusal → String
  | validation reason => "Validation failed: " ++ reason
  | unauthorized reason => "Unauthorized: " ++ reason
  | forbidden reason => "Forbidden: " ++ reason

end Refusal

/-- What is said of a text that is not of the wanted form. -/
def misreadText (field form raw : String) (flaw : Calendar.Flaw) : String :=
  field ++ ": expected " ++ form ++ ", got '" ++ raw ++ "' (" ++ flaw.message ++ ")"

/-- Reads a date; `field` names the input. -/
def readDate (field raw : String) : Except Refusal Calendar.Date :=
  match Calendar.Date.parse raw with
  | .ok d => .ok d
  | .error flaw => .error (.validation (misreadText field "YYYY-MM-DD" raw flaw))

/-- Reads a date-time; `field` names the input. -/
def readDateTime (field raw : String) : Except Refusal Calendar.DateTime :=
  match Calendar.DateTime.parse raw with
  | .ok t => .ok t
  | .error flaw => .error (.validation (misreadText field "YYYY-MM-DD HH:MM:SS" raw flaw))

end ShuttleDesk
