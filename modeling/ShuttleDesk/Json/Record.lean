/-
  ShuttleDesk/Json/Record.lean
  ============================
  Records with named fields.  A record is read from an object, whose members may
  come in any order, or from a list of its fields in their order.  Members that
  are no fields are skipped, a field may not come twice, and a field that does not
  come takes its value for that case or is missed.

  Inside the record a fault is marked with the member or item that was being read.
-/
import ShuttleDesk.Json.Scalar

namespace ShuttleDesk.Json

open Scan

/-- A field of a record. -/
structure Field where
  Value : Type
  name : String
  read : Scan Value
  /-- The value where an object does not name the field. -/
  unnamed : Option Value
  /-- The value where a list ends before the field. -/
  beyond : Option Value

namespace Field

def required {α : Type} (name : String) (r : Scan α) : Field := ⟨α, name, r, none, none⟩

/-- A field that may be null or, in an object, absent. -/
def nullable {α : Type} (name : String) (r : Scan α) : Field :=
  ⟨Option α, name, optional r, some none, none⟩

/-- A field with a value for its absence, in an object and in a list. -/
def withDefault {α : Type} (name : String) (r : Scan α) (d : α) : Field :=
  ⟨α, name, r, some d, some d⟩

end Field

def Values : List Field → Type
  | [] => Unit
  | f :: fs => f.Value × Values fs

/-- The values of the fields that have come so far. -/
def Slots : List Field → Type
  | [] => Unit
  | f :: fs => Option f.Value × Slots fs

def Slots.empty : (fs : List Field) → Slots fs
  | [] => ()
  | _ :: fs => (none, Slots.empty fs)

/-- The values, where no field is missed; the first that is missed is named. -/
def Slots.fill : (fs : List Field) → Slots fs → Except Fault (Values fs)
  | [], () => .ok ()
  | f :: fs, (v, rest) =>
    match v <|> f.unnamed with
    | none => .error (.missingField f.name)
    | some v => (Slots.fill fs rest).map fun vs => (v, vs)

/-- A name of a record and its fields. -/
structure Shape where
  name : String
  fields : List Field

namespace Shape

/-- The record, in faults. -/
def describe (s : Shape) : String := "struct " ++ s.name

/-- The record with the number of its fields, in faults. -/
def describeLength (s : Shape) : String :=
  let n := s.fields.length
  s.describe ++ " with " ++ Numeral.text n ++ if n = 1 then " element" else " elements"

end Shape

abbrev RecordScan (α : Type) := Bytes → Except Misread (α × Bytes)

def Scan.within {α : Type} (place : Option Place) (r : Scan α) : RecordScan α := fun bs =>
  match r bs with
  | .ok p => .ok p
  | .error f => .error ⟨f, place⟩

/-- What reading a member changes: nothing where the name is no field. -/
def Slots.read (name : String) : (fs : List Field) → Slots fs → Option (RecordScan (Slots fs))
  | [], () => none
  | f :: fs, (v, rest) =>
    if f.name = name then
      match v with
      | some _ => some fun _ => .error ⟨.duplicateField name, none⟩
      | none => some (Scan.within (some (.member name)) do
          colon
          let x ← f.read
          return (some x, rest))
    else (Slots.read name fs rest).map fun r bs => (r bs).map fun p => ((v, p.1), p.2)

/-- Takes the name of a member after its opening quote, then the member. -/
def readMember (fs : List Field) (slots : Slots fs) : RecordScan (Slots fs) := fun bs =>
  match Scan.within none stringRest bs with
  | .error m => .error m
  | .ok (name, rest) =>
    match Slots.read name fs slots with
    | some r => r rest
    | none => Scan.within (some (.member name)) (do colon; skipValue; return slots) rest

/-- Finds the next member of an object: `true` if its quote was taken, `false` at the closing
brace, which is left. -/
def nextMember (first : Bool) : Scan Bool := do
  let b ← peekOr .endInObject
  if b = byte '\x7d' then return false
  else if b = byte ',' ∧ !first then
    skip
    let c ← peekOr .endInValue
    if c = byte '"' then
      skip; return true
    else if c = byte '\x7d' then fail .trailingComma
    else fail .expectedKey
  else if first then
    if b = byte '"' then
      skip; return true
    else fail .expectedKey
  else fail .expectedObjectComma

/-- Takes the members of an object up to its closing brace.  `fuel` bounds their number. -/
def readMembers (fs : List Field) : Nat → Bool → Slots fs → RecordScan (Slots fs)
  | 0, _, _ => fun _ => .error ⟨.endInObject, none⟩
  | fuel + 1, first, slots => fun bs =>
    match Scan.within none (nextMember first) bs with
    | .error m => .error m
    | .ok (false, rest) => .ok (slots, rest.drop 1)
    | .ok (true, rest) =>
      match readMember fs slots rest with
      | .error m => .error m
      | .ok (slots, rest) => readMembers fs fuel false slots rest

/-- Finds the next item of a list: `false` at the closing bracket, which is left. -/
def nextItem (first : Bool) : Scan Bool := do
  let b ← peekOr .endInList
  if b = byte ']' then return false
  else if b = byte ',' ∧ !first then
    skip
    let c ← peekOr .endInValue
    if c = byte ']' then fail .trailingComma else return true
  else if first then return true
  else fail .expectedListComma

/-- Takes the fields from a list, from the `i`-th on. -/
def readItems (wanted : String) : (fs : List Field) → Nat → Bool → RecordScan (Values fs)
  | [], _, _ => fun bs => .ok ((), bs)
  | f :: fs, i, first => fun bs =>
    let item : Scan (Option f.Value) := do
      if ← nextItem first then return some (← f.read) else return none
    match Scan.within (some (.item i)) item bs with
    | .error m => .error m
    | .ok (some v, rest) =>
      (readItems wanted fs (i + 1) false rest).map fun p => ((v, p.1), p.2)
    | .ok (none, rest) =>
      match f.beyond with
      | none => .error ⟨.wrongLength i wanted, none⟩
      | some v => (readItems wanted fs (i + 1) first rest).map fun p => ((v, p.1), p.2)

/-- Takes the closing bracket of a list whose fields are complete. -/
def closeList : Scan Unit := do
  let b ← peekOr .endInList
  if b = byte ']' then skip
  else if b = byte ',' then
    skip
    if (← peek) = some (byte ']') then fail .trailingComma else fail .trailingText
  else fail .trailingText

def readRecord (s : Shape) : RecordScan (Values s.fields) := fun bs =>
  match Scan.within none (peekOr .endInValue) bs with
  | .error m => .error m
  | .ok (b, rest) =>
    if b = byte '\x7b' then
      match readMembers s.fields (rest.length + 1) true (Slots.empty s.fields) (rest.drop 1) with
      | .error m => .error m
      | .ok (slots, rest) =>
        match Slots.fill s.fields slots with
        | .error f => .error ⟨f, none⟩
        | .ok vs => .ok (vs, rest)
    else if b = byte '[' then
      match readItems s.describeLength s.fields 0 true (rest.drop 1) with
      | .error m => .error m
      | .ok (vs, rest) =>
        (Scan.within none closeList rest).map fun p => (vs, p.2)
    else Scan.within none (mismatch s.describe) rest

/-- Reads a whole text as a record, with nothing but blanks after it. -/
def readWhole (s : Shape) (bs : Bytes) : Except Misread (Values s.fields) :=
  match readRecord s bs with
  | .error m => .error m
  | .ok (vs, rest) =>
    match Scan.within none finish rest with
    | .error m => .error m
    | .ok _ => .ok vs

end ShuttleDesk.Json
