/-
  ShuttleDesk/Numeral.lean
  ========================
  Decimal numerals.  Writing gives the digits without leading zeros, or padded
  with zeros to a width.  Reading accepts a sign and digits and nothing else, and
  keeps the number within given bounds; the text is read from the left, so the
  first character that is no digit and the first digit that leaves the bounds
  compete by position.
-/
namespace ShuttleDesk.Numeral

def digits (n : Nat) : List Char := Nat.toDigits 10 n

/-- The digits with zeros in front up to the given width. -/
def padded (width n : Nat) : List Char :=
  List.replicate (width - (digits n).length) '0' ++ digits n

/-- An integer with a minus sign if it is negative. -/
def ofInt (n : Int) : List Char :=
  if n < 0 then '-' :: digits n.natAbs else digits n.natAbs

def text (n : Int) : String := String.ofList (ofInt n)

def digit? (c : Char) : Option Nat :=
  if '0' ≤ c ∧ c ≤ '9' then some (c.toNat - '0'.toNat) else none

/-- What keeps a text from being a numeral within its bounds. -/
inductive Flaw where
  | empty
  | invalidDigit
  | tooLarge
  | tooSmall
  deriving DecidableEq, Repr

/-- Reads digits onto `acc`, never passing `limit`. -/
def readDigits (limit : Nat) (overflow : Flaw) (acc : Nat) : List Char → Except Flaw Nat
  | [] => .ok acc
  | c :: rest =>
    match digit? c with
    | none => .error .invalidDigit
    | some d =>
      if limit < acc * 10 + d then .error overflow
      else readDigits limit overflow (acc * 10 + d) rest

/-- The bounds of the integers that fit a word. -/
structure Bounds where
  least : Int
  greatest : Int
  deriving DecidableEq, Repr

namespace Bounds

/-- The numbers of 16 bits without a sign. -/
def unsigned16 : Bounds := ⟨0, 65535⟩

/-- The numbers of 32 bits without a sign. -/
def unsigned32 : Bounds := ⟨0, 4294967295⟩

/-- The numbers of 64 bits without a sign. -/
def unsigned64 : Bounds := ⟨0, 18446744073709551615⟩

/-- The numbers of 32 bits with a sign. -/
def signed32 : Bounds := ⟨-2147483648, 2147483647⟩

/-- The numbers of 64 bits with a sign. -/
def signed64 : Bounds := ⟨-9223372036854775808, 9223372036854775807⟩

def contains (b : Bounds) (n : Int) : Bool := b.least ≤ n && n ≤ b.greatest

end Bounds

/-- Reads digits after the sign; a sign alone is no numeral. -/
def readNegative (b : Bounds) (ds : List Char) : Except Flaw Int :=
  if ds.isEmpty then .error .invalidDigit
  else (readDigits b.least.natAbs .tooSmall 0 ds).map fun n => -(n : Int)

def readPositive (b : Bounds) (ds : List Char) : Except Flaw Int :=
  (readDigits b.greatest.toNat .tooLarge 0 ds).map Int.ofNat

/-- Reads a whole text as a numeral within the bounds.  A minus sign belongs to the
numeral only where negative numbers are within the bounds. -/
def parse (b : Bounds) : List Char → Except Flaw Int
  | [] => .error .empty
  | c :: rest =>
    if c = '-' ∧ b.least < 0 then readNegative b rest
    else if c = '+' then
      if rest.isEmpty then .error .invalidDigit else readPositive b rest
    else readPositive b (c :: rest)

end ShuttleDesk.Numeral
