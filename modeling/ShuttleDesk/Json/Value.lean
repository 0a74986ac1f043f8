/-
  ShuttleDesk/Json/Value.lean
  ===========================
  Values as they are answered: numbers are integers, an object keeps its members
  in order, and `render` writes a value without blanks.  In a string the quote, the
  backslash and the controls are escaped and every other character stands for
  itself.
-/
import ShuttleDesk.Numeral

namespace ShuttleDesk.Json

/-- A value that can be written. -/
inductive Value where
  | null
  | bool (b : Bool)
  | integer (n : Int)
  | string (s : String)
  | list (items : List Value)
  | object (members : List (String × Value))

namespace Value

/-- A string, or null if there is none. -/
def ofString? : Option String → Value
  | none => null
  | some s => string s

/-- An integer, or null if there is none. -/
def ofInt? : Option Int → Value
  | none => null
  | some n => integer n

end Value

/-! ### Writing -/

def hexDigit (n : Nat) : Char := Nat.digitChar (n % 16)

def escapedChar (c : Char) : List Char :=
  if c = '"' then ['\\', '"']
  else if c = '\\' then ['\\', '\\']
  else if c = '\x08' then ['\\', 'b']
  else if c = '\x0c' then ['\\', 'f']
  else if c = '\n' then ['\\', 'n']
  else if c = '\r' then ['\\', 'r']
  else if c = '\t' then ['\\', 't']
  else if c.toNat < 0x20 then
    ['\\', 'u', '0', '0', hexDigit (c.toNat / 16), hexDigit c.toNat]
  else [c]

def renderString (s : List Char) : List Char :=
  ['"'] ++ s.flatMap escapedChar ++ ['"']

mutual

/-- The text of a value. -/
def render : Value → List Char
  | .null => "null".toList
  | .bool b => if b then "true".toList else "false".toList
  | .integer n => Numeral.ofInt n
  | .string s => renderString s.toList
  | .list items => ['['] ++ renderItems items ++ [']']
  | .object members => ['\x7b'] ++ renderMembers members ++ ['\x7d']

def renderItems : List Value → List Char
  | [] => []
  | [v] => render v
  | v :: w :: vs => render v ++ [','] ++ renderItems (w :: vs)

/-- The members of an object with commas between them. -/
def renderMembers : List (String × Value) → List Char
  | [] => []
  | [(name, v)] => renderString name.toList ++ [':'] ++ render v
  | (name, v) :: m :: ms =>
    renderString name.toList ++ [':'] ++ render v ++ [','] ++ renderMembers (m :: ms)

end

def Value.text (v : Value) : String := String.ofList (render v)

end ShuttleDesk.Json
