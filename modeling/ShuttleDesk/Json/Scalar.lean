/-
  ShuttleDesk/Json/Scalar.lean
  ============================
  Readings of single values: texts, integers within bounds, names out of a list,
  values that may be null, and values that nobody asked for.  A value of another
  kind is named in the fault, as far as its own text can be read.
-/
import ShuttleDesk.Json.Scan

namespace ShuttleDesk.Json

open Scan

namespace Scan

def isDigit (b : UInt8) : Bool := (digitValue? b).isSome

/-- What was found in place of a number of the wrong kind. -/
def Number.found : Number → Found
  | .integer n => .integer n
  | .real x => .real x

/-- Fails because the value in front is not the one wanted. -/
def mismatch {α : Type} (wanted : String) : Scan α := do
  let b ← peekOr .endInValue
  if b = byte 'n' then
    skip; word "ull"; fail (.wrongType .null wanted)
  else if b = byte 't' then
    skip; word "rue"; fail (.wrongType (.boolean true) wanted)
  else if b = byte 'f' then
    skip; word "alse"; fail (.wrongType (.boolean false) wanted)
  else if b = byte '-' then
    skip
    let x ← numberRest true
    fail (.wrongType x.found wanted)
  else if isDigit b then
    let x ← numberRest false
    fail (.wrongType x.found wanted)
  else if b = byte '"' then
    skip
    let s ← stringRest
    fail (.wrongType (.string s) wanted)
  else if b = byte '[' then fail (.wrongType .list wanted)
  else if b = byte '\x7b' then fail (.wrongType .object wanted)
  else fail .expectedValue

/-- Takes a string; `wanted` names it in faults. -/
def stringNamed (wanted : String) : Scan String := do
  let b ← peekOr .endInValue
  if b = byte '"' then
    skip; stringRest
  else mismatch wanted

def text : Scan String := stringNamed "a string"

def Number.within (x : Number) (bounds : Numeral.Bounds) (wanted : String) : Except Fault Int :=
  match x with
  | .real y => .error (.wrongType (.real y) wanted)
  | .integer n =>
    if bounds.contains n then .ok n else .error (.wrongInteger n wanted)

/-- Takes an integer within bounds; `wanted` names them in faults. -/
def integerNamed (bounds : Numeral.Bounds) (wanted : String) : Scan Int := do
  let b ← peekOr .endInValue
  if b = byte '-' then
    skip
    let x ← numberRest true
    x.within bounds wanted
  else if isDigit b then
    let x ← numberRest false
    x.within bounds wanted
  else mismatch wanted

/-- Takes an integer that fits 32 bits. -/
def int32 : Scan Int := integerNamed .signed32 "i32"

/-- Takes an integer that fits 64 bits. -/
def int64 : Scan Int := integerNamed .signed64 "i64"

def optional {α : Type} (r : Scan α) : Scan (Option α) := do
  if (← peek) = some (byte 'n') then
    skip; word "ull"; return none
  else return some (← r)

/-- Takes the null that a variant without contents carries. -/
def emptyContent : Scan Unit := do
  let b ← peekOr .endInValue
  if b = byte 'n' then
    skip; word "ull"
  else mismatch "unit"

def colon : Scan Unit := do
  let b ← peekOr .endInObject
  if b = byte ':' then skip else fail .expectedColon

def variantOf {α : Type} (known : List (String × α)) (name : String) : Scan α :=
  match known.lookup name with
  | some v => return v
  | none => fail (.unknownVariant name (known.map Prod.fst))

/-- Takes one of the known names, plain or as the only member of an object with null. -/
def variant {α : Type} (known : List (String × α)) : Scan α := do
  let b ← peekOr .endInValue
  if b = byte '\x7b' then
    skip
    let v ← variantOf known (← stringNamed "variant identifier")
    colon
    emptyContent
    let e ← peekOr .endInObject
    if e = byte '\x7d' then
      skip; return v
    else fail .expectedValue
  else if b = byte '"' then
    skip
    variantOf known (← stringRest)
  else fail .expectedValue

/-! ### Values nobody asked for -/

mutual

/-- Skips a value; only its form is looked at.  `fuel` bounds the steps. -/
def skipValueFor : Nat → Scan Unit
  | 0 => fail .endInValue
  | fuel + 1 => do
    let b ← peekOr .endInValue
    if b = byte 'n' then
      skip; word "ull"
    else if b = byte 't' then
      skip; word "rue"
    else if b = byte 'f' then
      skip; word "alse"
    else if b = byte '-' then
      skip; skipNumberRest
    else if isDigit b then skipNumberRest
    else if b = byte '"' then
      skip; skipStringRest
    else if b = byte '[' then
      skip
      if (← peekOr .endInList) = byte ']' then skip
      else
        skipValueFor fuel
        skipItemsFor fuel
    else if b = byte '\x7b' then
      skip
      if (← peekOr .endInObject) = byte '\x7d' then skip
      else
        skipMemberFor fuel
        skipMembersFor fuel
    else fail .expectedValue

/-- Skips the items of a list after the first one, and the closing bracket. -/
def skipItemsFor : Nat → Scan Unit
  | 0 => fail .endInList
  | fuel + 1 => do
    let b ← peekOr .endInList
    if b = byte ',' then
      skip
      skipValueFor fuel
      skipItemsFor fuel
    else if b = byte ']' then skip
    else fail .expectedListComma

def skipMemberFor : Nat → Scan Unit
  | 0 => fail .endInObject
  | fuel + 1 => do
    if (← peekOr .endInObject) = byte '"' then
      skip
      skipStringRest
      colon
      skipValueFor fuel
    else fail .expectedKey

/-- Skips the members of an object after the first one, and the closing brace. -/
def skipMembersFor : Nat → Scan Unit
  | 0 => fail .endInObject
  | fuel + 1 => do
    let b ← peekOr .endInObject
    if b = byte ',' then
      skip
      skipMemberFor fuel
      skipMembersFor fuel
    else if b = byte '\x7d' then skip
    else fail .expectedObjectComma

end

/-- Skips a value; only its form is looked at. -/
def skipValue : Scan Unit := fun bs => skipValueFor (2 * bs.length + 2) bs

end Scan

/-- Reads a whole text with nothing but blanks after the value. -/
def readAll {α : Type} (r : Scan α) (bs : Bytes) : Except Fault α :=
  match (do let x ← r; finish; return x : Scan α) bs with
  | .ok (x, _) => .ok x
  | .error f => .error f

end ShuttleDesk.Json
