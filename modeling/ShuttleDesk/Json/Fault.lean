/-
  ShuttleDesk/Json/Fault.lean
  ===========================
  Why a text cannot be read, and the message that says so.  A fault is either one
  of form (the text is no value at all) or one of meaning (it is a value, but not
  the one wanted).  For a record the fault may carry the place where it stands: the
  member or the item that was being read.
-/
import ShuttleDesk.Decimal.Shortest
import ShuttleDesk.Text.Quoted

namespace ShuttleDesk.Json

/-- What stands where something else is wanted. -/
inductive Found where
  | null
  | boolean (b : Bool)
  | integer (n : Int)
  | real (x : Decimal.Binary64)
  | string (s : String)
  | list
  | object
  deriving DecidableEq, Repr

/-- Why a text cannot be read. -/
inductive Fault where
  | endInValue
  | endInList
  | endInObject
  | endInString
  | expectedColon
  | expectedListComma
  | expectedObjectComma
  | expectedLiteral
  | expectedValue
  | expectedKey
  | trailingComma
  | trailingText
  | invalidEscape
  | loneSurrogate
  | unfinishedSurrogate
  | invalidUtf8
  | controlCharacter
  | invalidNumber
  | numberTooLarge
  | wrongType (found : Found) (wanted : String)
  | wrongInteger (n : Int) (wanted : String)
  | unknownVariant (name : String) (known : List String)
  | wrongLength (n : Nat) (wanted : String)
  | missingField (name : String)
  | duplicateField (name : String)
  deriving DecidableEq, Repr

/-- Where in a record a fault stands. -/
inductive Place where
  | member (name : String)
  | item (i : Nat)
  deriving DecidableEq, Repr

/-- A fault and, inside a record, its place. -/
structure Misread where
  fault : Fault
  place : Option Place
  deriving DecidableEq, Repr

/-! ### Wording -/

def ticked (s : String) : String :=
  let tick := String.singleton (Char.ofNat 0x60)
  tick ++ s ++ tick

/-- What was found, in words. -/
def Found.describe : Found → String
  | .null => "null"
  | .boolean b => "boolean " ++ ticked (if b then "true" else "false")
  | .integer n => "integer " ++ ticked (Numeral.text n)
  | .real x => "floating point " ++ ticked (Decimal.Shortest.text x)
  | .string s => "string " ++ Text.quoted s
  | .list => "sequence"
  | .object => "map"

/-- The known variants, in words. -/
def describeVariants (known : List String) : String :=
  match known.map ticked with
  | [] => "there are no variants"
  | [a] => "expected " ++ a
  | [a, b] => "expected " ++ a ++ " or " ++ b
  | names => "expected one of " ++ ", ".intercalate names

def Fault.message : Fault → String
  | .endInValue => "EOF while parsing a value"
  | .endInList => "EOF while parsing a list"
  | .endInObject => "EOF while parsing an object"
  | .endInString => "EOF while parsing a string"
  | .expectedColon => "expected " ++ ticked ":"
  | .expectedListComma => "expected " ++ ticked "," ++ " or " ++ ticked "]"
  | .expectedObjectComma => "expected " ++ ticked "," ++ " or " ++ ticked "\x7d"
  | .expectedLiteral => "expected ident"
  | .expectedValue => "expected value"
  | .expectedKey => "key must be a string"
  | .trailingComma => "trailing comma"
  | .trailingText => "trailing characters"
  | .invalidEscape => "invalid escape"
  | .loneSurrogate => "lone leading surrogate in hex escape"
  | .unfinishedSurrogate => "unexpected end of hex escape"
  | .invalidUtf8 => "invalid unicode code point"
  | .controlCharacter =>
    "control character (\\u0000-\\u001F) found while parsing a string"
  | .invalidNumber => "invalid number"
  | .numberTooLarge => "number out of range"
  | .wrongType found wanted => "invalid type: " ++ found.describe ++ ", expected " ++ wanted
  | .wrongInteger n wanted =>
    "invalid value: integer " ++ ticked (Numeral.text n) ++ ", expected " ++ wanted
  | .unknownVariant name known =>
    "unknown variant " ++ ticked name ++ ", " ++ describeVariants known
  | .wrongLength n wanted => "invalid length " ++ Numeral.text n ++ ", expected " ++ wanted
  | .missingField name => "missing field " ++ ticked name
  | .duplicateField name => "duplicate field " ++ ticked name

/-- The text is a value, but not the one wanted. -/
def Fault.isOfMeaning : Fault → Bool
  | .wrongType .. | .wrongInteger .. | .unknownVariant .. | .wrongLength ..
  | .missingField _ | .duplicateField _ => true
  | _ => false

/-- The place, as it is put in front of a message. -/
def Place.label : Place → String
  | .member name => name
  | .item i => "[" ++ Numeral.text i ++ "]"

/-- The message of a fault with its place in front. -/
def Misread.message (m : Misread) : String :=
  match m.place with
  | none => m.fault.message
  | some p => p.label ++ ": " ++ m.fault.message

end ShuttleDesk.Json
