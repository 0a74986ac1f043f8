/-
  ShuttleDesk/Store/Statement.lean
  ================================
  Statements: procedures that fail with errors of the store.  Every statement needs
  the store open.  Its arguments are checked before anything else.  A statement that
  locks or changes a row which another session holds has to wait, and fails in the
  end.  How long it waits is not told here; a lock timeout that has been set before in
  its transaction bounds it.
-/
import ShuttleDesk.Store.Error
import ShuttleDesk.Store.Procedure

namespace ShuttleDesk

/-- A statement of the store. -/
abbrev Statement (α : Type) := Procedure StorageError α

namespace Statement

open Procedure

def ensureOpen : Statement Unit := do
  let w ← world
  if w.isOpen then return () else fail .poolClosed

def query {α : Type} (f : Tables → α) : Statement α := do
  ensureOpen
  return f (← world).tables

/-- The greatest lock timeout that can be set, in milliseconds. -/
def greatestLockTimeout : Int := 2147483647

def setLockTimeout (millis : Int) : Statement Unit := do
  ensureOpen
  if millis ≤ greatestLockTimeout then return () else fail .invalidSetting

def awaitShifts (ids : List Int) : Statement Unit := do
  let w ← world
  if ids.any w.heldShifts.contains then fail .lockNotAvailable else return ()

def awaitRequests (ids : List Int) : Statement Unit := do
  let w ← world
  if ids.any w.heldRequests.contains then fail .lockNotAvailable else return ()

/-! ### Arguments -/

/-- A value that is handed to the store. -/
inductive Argument where
  | text (s : String)
  | date (d : Calendar.Date)
  | time (t : Calendar.WallClock)
  deriving DecidableEq, Repr

/-- The first day that can be stored. -/
def firstDay : Int := Calendar.countDays (-4713) 11 24

/-- What is wrong with an argument. -/
def Argument.flaw? : Argument → Option StorageError
  | text s => if s.toList.contains '\x00' then some .invalidText else none
  | date d => if d.number < firstDay then some .timeTooEarly else none
  | time t =>
    if t.seconds < firstDay * Calendar.secondsPerDay then some .timeTooEarly else none

def optionalText (s : Option String) : List Argument := s.toList.map .text

def optionalTime (t : Option Calendar.WallClock) : List Argument := t.toList.map .time

/-- The store takes the arguments; the first that is wrong, in order, is reported. -/
def checkArguments (args : List Argument) : Statement Unit := do
  ensureOpen
  match args.findSome? Argument.flaw? with
  | some e => fail e
  | none => return ()

/-! ### Reading rows back -/

/-- The rows, if their times are in the calendar. -/
def readable {α : Type} (isReadable : α → Bool) (rows : List α) : Statement (List α) :=
  if rows.all isReadable then return rows else overflow

/-- The row, if its times are in the calendar. -/
def readableRow {α : Type} (isReadable : α → Bool) (row : α) : Statement α :=
  if isReadable row then return row else overflow

/-- The row, if there is one, when its times are in the calendar. -/
def readableRow? {α : Type} (isReadable : α → Bool) (row : Option α) : Statement (Option α) :=
  if row.all isReadable then return row else overflow

end Statement
end ShuttleDesk
