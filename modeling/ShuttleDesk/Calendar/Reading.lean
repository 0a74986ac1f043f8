/-
  ShuttleDesk/Calendar/Reading.lean
  =================================
  Reading dates and date-times from texts.  A text is trimmed, then read field by
  field: a number may have blanks in front, a year with a sign may have any number
  of digits, and the space between date and time stands for any blanks.  Each
  number is checked as soon as it is read; that the day exists is checked last,
  after the text has come to its end.
-/
import ShuttleDesk.Calendar.DateTime
import ShuttleDesk.Text.Blank

namespace ShuttleDesk.Calendar

/-- Why a text is no date. -/
inductive Flaw where
  | tooShort
  | invalid
  | outOfRange
  | trailing
  deriving DecidableEq, Repr

/-- The reason, in words. -/
def Flaw.message : Flaw → String
  | .tooShort => "premature end of input"
  | .invalid => "input contains invalid characters"
  | .outOfRange => "input is out of range"
  | .trailing => "trailing input"

namespace Reading

abbrev Scan (α : Type) := StateT (List Char) (Except Flaw) α

def fail {α : Type} (f : Flaw) : Scan α := fun _ => .error f

def isDigit (c : Char) : Bool := (Numeral.digit? c).isSome

def value (ds : List Char) : Nat :=
  ds.foldl (fun n c => n * 10 + (Numeral.digit? c).getD 0) 0

def greatestNumber : Nat := Numeral.Bounds.signed64.greatest.toNat

/-- Takes the digits among the characters given, which are the front of `s`. -/
def digitsAmong (front s : List Char) : Except Flaw (Nat × List Char) :=
  match s with
  | [] => .error .tooShort
  | _ :: _ =>
    let ds := front.takeWhile isDigit
    if ds.isEmpty then .error .invalid
    else if greatestNumber < value ds then .error .outOfRange
    else .ok (value ds, s.drop ds.length)

def unbounded : Scan Nat := fun s => digitsAmong s s

def upTo (width : Nat) : Scan Nat := fun s => digitsAmong (s.take width) s

def mark (c : Char) : Scan Unit
  | [] => .error .tooShort
  | d :: rest => if d = c then .ok ((), rest) else .error .invalid

def blanks : Scan Unit := fun s => .ok ((), Text.trimStart s)

def within (bounds : Numeral.Bounds) (n : Int) : Scan Unit :=
  if bounds.contains n then pure () else fail .outOfRange

/-- Takes the sign of a year, if there is one. -/
def sign : Scan (Option Bool) := fun s =>
  match s with
  | '-' :: rest => .ok (some true, rest)
  | '+' :: rest => .ok (some false, rest)
  | _ => .ok (none, s)

/-- Takes a year: four digits at most, or a sign and any number of them. -/
def year : Scan Int := do
  blanks
  let y : Int ← match ← sign with
    | none => return (← upTo 4 : Nat)
    | some negative => do
      let n ← unbounded
      pure (if negative then -(n : Int) else n)
  within .signed32 y
  return y

/-- Takes a number of at most two digits within bounds. -/
def small (least greatest : Nat) : Scan Nat := do
  blanks
  let n ← upTo 2
  within ⟨least, greatest⟩ n
  return n

/-- Takes year, month and day. -/
def dateParts : Scan (Int × Nat × Nat) := do
  let y ← year
  mark '-'
  let m ← small 1 12
  mark '-'
  let d ← small 1 31
  return (y, m, d)

/-- Takes hour, minute and second. -/
def timeParts : Scan (Nat × Nat × Nat) := do
  let h ← small 0 23
  mark ':'
  let m ← small 0 59
  mark ':'
  let s ← small 0 60
  return (h, m, s)

def finish : Scan Unit := fun s => if s.isEmpty then .ok ((), s) else .error .trailing

/-- What exists, or a fault of range. -/
def existing {α : Type} (x : Option α) : Scan α :=
  match x with
  | some a => pure a
  | none => fail .outOfRange

/-- Takes a date, which is all there is. -/
def date : Scan Date := do
  let (y, m, d) ← dateParts
  finish
  existing (Date.ofParts? y m d)

/-- Takes a date-time, which is all there is. -/
def dateTime : Scan DateTime := do
  let (y, mo, d) ← dateParts
  blanks
  let (h, mi, s) ← timeParts
  finish
  existing (do DateTime.ofParts? (← Date.ofParts? y mo d) h mi s)

def ofText {α : Type} (r : Scan α) (s : String) : Except Flaw α :=
  (r (Text.trim s.toList)).map Prod.fst

end Reading

def Date.parse (s : String) : Except Flaw Date := Reading.ofText Reading.date s

def DateTime.parse (s : String) : Except Flaw DateTime := Reading.ofText Reading.dateTime s

end ShuttleDesk.Calendar
