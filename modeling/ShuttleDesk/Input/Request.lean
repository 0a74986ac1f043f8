/-
  ShuttleDesk/Input/Request.lean
  ==============================
  What a rider sends: a new request, or an edit whose absent fields stay as they
  are.  Besides the form of the record there are rules for single fields; all that
  are broken are named together, in the order of the fields' names.
-/
import ShuttleDesk.Desk.Error
import ShuttleDesk.Json.Record

namespace ShuttleDesk

open Json (Shape)

/-- A new request as it is sent. -/
structure RequestInput where
  flightNo : String
  arrivalDate : String
  terminal : String
  checkedBags : Int
  carryOnBags : Int
  expectedArrivalTime : String
  deriving DecidableEq, Repr

/-- An edit of a request as it is sent. -/
structure RequestEdit where
  flightNo : Option String
  arrivalDate : Option String
  terminal : Option String
  checkedBags : Option Int
  carryOnBags : Option Int
  expectedArrivalTime : Option String
  deriving DecidableEq, Repr

/-! ### Rules for single fields -/

namespace FieldRule

/-- The text has between one and `greatest` characters. -/
def hasLength (greatest : Nat) (s : String) : Bool := 1 ≤ s.length && s.length ≤ greatest

def isCount (n : Int) : Bool := 0 ≤ n

def flightNoLength : Nat := 20

def terminalLength : Nat := 10

def line (field rule : String) : String := field ++ ": Validation error: " ++ rule

/-- The lines of the rules that the given fields break. -/
def broken (flightNo terminal : Option String) (checkedBags carryOnBags : Option Int) :
    List String :=
  (if carryOnBags.all isCount then [] else [line "carry_on_bags" "range"])
    ++ (if checkedBags.all isCount then [] else [line "checked_bags" "range"])
    ++ (if flightNo.all (hasLength flightNoLength) then [] else [line "flight_no" "length"])
    ++ (if terminal.all (hasLength terminalLength) then [] else [line "terminal" "length"])

def check (lines : List String) : Except DeskError Unit :=
  if lines.isEmpty then .ok () else .error (.invalidInput ("\n".intercalate lines))

end FieldRule

namespace RequestInput

def shape : Shape where
  name := "CreateRequestInput"
  fields := [
    .required "flight_no" Json.Scan.text,
    .required "arrival_date" Json.Scan.text,
    .required "terminal" Json.Scan.text,
    .withDefault "checked_bags" Json.Scan.int32 0,
    .withDefault "carry_on_bags" Json.Scan.int32 0,
    .required "expected_arrival_time" Json.Scan.text]

def ofValues : Json.Values shape.fields → RequestInput
  | (flightNo, arrivalDate, terminal, checkedBags, carryOnBags, expectedArrivalTime, ()) =>
    { flightNo, arrivalDate, terminal, checkedBags, carryOnBags, expectedArrivalTime }

def read (bs : Bytes) : Except Json.Misread RequestInput :=
  (Json.readWhole shape bs).map ofValues

def validate (i : RequestInput) : Except DeskError Unit :=
  FieldRule.check
    (FieldRule.broken (some i.flightNo) (some i.terminal) (some i.checkedBags)
      (some i.carryOnBags))

end RequestInput

namespace RequestEdit

def shape : Shape where
  name := "UpdateRequestInput"
  fields := [
    .nullable "flight_no" Json.Scan.text,
    .nullable "arrival_date" Json.Scan.text,
    .nullable "terminal" Json.Scan.text,
    .nullable "checked_bags" Json.Scan.int32,
    .nullable "carry_on_bags" Json.Scan.int32,
    .nullable "expected_arrival_time" Json.Scan.text]

def ofValues : Json.Values shape.fields → RequestEdit
  | (flightNo, arrivalDate, terminal, checkedBags, carryOnBags, expectedArrivalTime, ()) =>
    { flightNo, arrivalDate, terminal, checkedBags, carryOnBags, expectedArrivalTime }

def read (bs : Bytes) : Except Json.Misread RequestEdit :=
  (Json.readWhole shape bs).map ofValues

def validate (e : RequestEdit) : Except DeskError Unit :=
  FieldRule.check (FieldRule.broken e.flightNo e.terminal e.checkedBags e.carryOnBags)

end RequestEdit

end ShuttleDesk
