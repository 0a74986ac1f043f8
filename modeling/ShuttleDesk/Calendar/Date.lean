/-
  ShuttleDesk/Calendar/Date.lean
  ==============================
  Days of the Gregorian calendar, extended to all years from -262143 to 262142.  A
  date carries the proof that its day exists.  Days are also counted, from the first
  of March of the year zero: counting from March puts the leap day at the end of the
  counted year, so that the months before a day are a linear rule.
-/
import ShuttleDesk.Numeral

namespace ShuttleDesk.Calendar

/-- The year has a 29th of February. -/
def isLeap (year : Int) : Bool := year % 4 == 0 && (year % 100 != 0 || year % 400 == 0)

def daysIn (year : Int) (month : Nat) : Nat :=
  if month = 2 then if isLeap year then 29 else 28
  else if month = 4 ∨ month = 6 ∨ month = 9 ∨ month = 11 then 30
  else 31

def firstYear : Int := -262143

def lastYear : Int := 262142

def IsDay (year : Int) (month day : Nat) : Prop :=
  (firstYear ≤ year ∧ year ≤ lastYear) ∧ (1 ≤ month ∧ month ≤ 12) ∧
    (1 ≤ day ∧ day ≤ daysIn year month)

instance (year : Int) (month day : Nat) : Decidable (IsDay year month day) := by
  unfold IsDay
  infer_instance

/-- A day of the calendar. -/
structure Date where
  year : Int
  month : Nat
  day : Nat
  isDay : IsDay year month day
  deriving DecidableEq, Repr

/-! ### Counting days -/

/-- The days from the first of March of the year zero to a day. -/
def countDays (year : Int) (month day : Nat) : Int :=
  let y := if month ≤ 2 then year - 1 else year
  let m : Int := ((month : Int) + 9) % 12
  365 * y + y / 4 - y / 100 + y / 400 + (153 * m + 2) / 5 + day - 1

/-- The year, month and day of a counted day. -/
def ofCount (n : Int) : Int × Nat × Nat :=
  let era := n / 146097
  let dayOfEra := n % 146097
  let yearOfEra :=
    (dayOfEra - dayOfEra / 1460 + dayOfEra / 36524 - dayOfEra / 146096) / 365
  let dayOfYear := dayOfEra - (365 * yearOfEra + yearOfEra / 4 - yearOfEra / 100)
  let m := (5 * dayOfYear + 2) / 153
  let day := dayOfYear - (153 * m + 2) / 5 + 1
  let month := if m < 10 then m + 3 else m - 9
  let year := yearOfEra + era * 400
  (if month ≤ 2 then year + 1 else year, month.toNat, day.toNat)

namespace Date

/-- The day with these numbers, if it exists. -/
def ofParts? (year : Int) (month day : Nat) : Option Date :=
  if h : IsDay year month day then some ⟨year, month, day, h⟩ else none

def number (d : Date) : Int := countDays d.year d.month d.day

/-- The day with a number, if it is in the calendar. -/
def ofNumber? (n : Int) : Option Date :=
  let (year, month, day) := ofCount n
  ofParts? year month day

/-- A year with at least four digits; outside 0 to 9999 it carries a sign. -/
def yearText (year : Int) : List Char :=
  if 0 ≤ year ∧ year ≤ 9999 then Numeral.padded 4 year.toNat
  else (if year < 0 then '-' else '+') :: Numeral.padded 4 year.natAbs

/-- The text of a date: year, month and day with hyphens between them. -/
def chars (d : Date) : List Char :=
  yearText d.year ++ ['-'] ++ Numeral.padded 2 d.month ++ ['-'] ++ Numeral.padded 2 d.day

def text (d : Date) : String := String.ofList d.chars

end Date

end ShuttleDesk.Calendar
