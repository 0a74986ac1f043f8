/-
  ShuttleDesk/Calendar/DateTime.lean
  ==================================
  Local date-times without a zone, to the second.  A minute may carry a sixtieth
  second, the leap second.  Adding minutes counts elapsed seconds in which a leap
  second does not exist: going forward it starts from second 59, going back from
  the next minute, and adding nothing leaves it as it is.
-/
import ShuttleDesk.Calendar.Date

namespace ShuttleDesk.Calendar

/-- The time exists on a clock that may show second 60. -/
def IsTime (hour minute second : Nat) : Prop := hour ≤ 23 ∧ minute ≤ 59 ∧ second ≤ 60

instance (hour minute second : Nat) : Decidable (IsTime hour minute second) := by
  unfold IsTime
  infer_instance

/-- A time on a day of the calendar. -/
structure DateTime where
  date : Date
  hour : Nat
  minute : Nat
  second : Nat
  isTime : IsTime hour minute second
  deriving DecidableEq, Repr

def secondsPerDay : Int := 86400

namespace DateTime

/-- The time with these numbers on a day, if it exists. -/
def ofParts? (date : Date) (hour minute second : Nat) : Option DateTime :=
  if h : IsTime hour minute second then some ⟨date, hour, minute, second, h⟩ else none

/-- The seconds since midnight; a leap second counts as the second after 59. -/
def secondOfDay (t : DateTime) : Int := t.hour * 3600 + t.minute * 60 + t.second

def seconds (t : DateTime) : Int := t.date.number * secondsPerDay + t.secondOfDay

/-- The date-time so many seconds after the first counted midnight, if it is in the calendar. -/
def ofSeconds? (n : Int) : Option DateTime := do
  let date ← Date.ofNumber? (n / secondsPerDay)
  let second := (n % secondsPerDay).toNat
  ofParts? date (second / 3600) (second % 3600 / 60) (second % 60)

def isLeapSecond (t : DateTime) : Bool := t.second == 60

/-- The date-time some minutes later, or earlier if their number is negative; outside the
calendar there is none. -/
def addMinutes? (t : DateTime) (minutes : Int) : Option DateTime :=
  if t.isLeapSecond then
    if minutes = 0 then some t
    else ofSeconds? (t.seconds + minutes * 60 - if 0 < minutes then 1 else 0)
  else ofSeconds? (t.seconds + minutes * 60)

def timeChars (t : DateTime) : List Char :=
  Numeral.padded 2 t.hour ++ [':'] ++ Numeral.padded 2 t.minute ++ [':']
    ++ Numeral.padded 2 t.second

/-- Date and time with the given mark between them. -/
def charsWith (mark : Char) (t : DateTime) : List Char := t.date.chars ++ [mark] ++ t.timeChars

/-- The text of a date-time, with `T` between date and time. -/
def text (t : DateTime) : String := String.ofList (t.charsWith 'T')

end DateTime

/-! ### Stored times -/

/-- A date-time as it is stored: the seconds since the first counted midnight.  There is no
leap second, and a stored time may lie past the end of the calendar. -/
structure WallClock where
  seconds : Int
  deriving DecidableEq, Repr

namespace WallClock

def ofDateTime (t : DateTime) : WallClock := ⟨t.seconds⟩

/-- The date-time of a stored time, if it is in the calendar. -/
def toDateTime? (w : WallClock) : Option DateTime := DateTime.ofSeconds? w.seconds

def isReadable (w : WallClock) : Bool := w.toDateTime?.isSome

/-- The text of a stored time; empty outside the calendar. -/
def text (w : WallClock) : String :=
  match w.toDateTime? with
  | some t => t.text
  | none => ""

end WallClock

end ShuttleDesk.Calendar
