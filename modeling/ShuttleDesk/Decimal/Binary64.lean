/-
  ShuttleDesk/Decimal/Binary64.lean
  =================================
  Binary floating point with 53 digits.  A magnitude is `mantissa * 2 ^ exponent`
  with the mantissa below `2 ^ 53` and the exponent at least -1074; a fraction is
  rounded to the nearest such number, half way to the even mantissa, and beyond
  the greatest of them it has no reading.
-/
namespace ShuttleDesk.Decimal

/-- A binary floating point number that is finite. -/
structure Binary64 where
  negative : Bool
  mantissa : Nat
  exponent : Int
  deriving DecidableEq, Repr

namespace Binary64

/-- The least exponent; numbers below are not represented exactly. -/
def leastExponent : Int := -1074

/-- The greatest exponent of a mantissa with 53 digits. -/
def greatestExponent : Int := 971

/-- The quotient rounded to the nearest integer, half way to the even one. -/
def roundDiv (num den : Nat) : Nat :=
  let q := num / den
  let r := num % den
  if 2 * r < den then q
  else if den < 2 * r then q + 1
  else if q % 2 = 0 then q else q + 1

/-- The numerator and denominator of `num / den / 2 ^ e`. -/
def scaled (num den : Nat) (e : Int) : Nat × Nat :=
  if e < 0 then (num * Nat.pow 2 e.natAbs, den) else (num, den * Nat.pow 2 e.natAbs)

/-- The exponent at which the quotient has 53 binary digits, or the least one. -/
def exponentFor (num den : Nat) : Int :=
  let guess : Int := (num.log2 : Int) - den.log2 - 52
  let (n, d) := scaled num den guess
  let fitted := if n < d * Nat.pow 2 52 then guess - 1 else guess
  max fitted leastExponent

/-- The magnitude nearest to a positive fraction, unless it is too large. -/
def roundFraction (num den : Nat) : Option Binary64 :=
  if num = 0 then some ⟨false, 0, leastExponent⟩
  else
    let e := exponentFor num den
    let (n, d) := scaled num den e
    let m := roundDiv n d
    let (m, e) := if m = Nat.pow 2 53 then (Nat.pow 2 52, e + 1) else (m, e)
    if greatestExponent < e then none else some ⟨false, m, e⟩

def fraction (x : Binary64) : Nat × Nat :=
  if x.exponent < 0 then (x.mantissa, Nat.pow 2 x.exponent.natAbs)
  else (x.mantissa * Nat.pow 2 x.exponent.natAbs, 1)

def isZero (x : Binary64) : Bool := x.mantissa == 0

def ofNat? (n : Nat) : Option Binary64 := roundFraction n 1

def mul? (x y : Binary64) : Option Binary64 :=
  roundFraction (x.fraction.1 * y.fraction.1) (x.fraction.2 * y.fraction.2)

def div? (x y : Binary64) : Option Binary64 :=
  roundFraction (x.fraction.1 * y.fraction.2) (x.fraction.2 * y.fraction.1)

/-- The rounded power of ten, up to the 308th. -/
def powerOfTen? (k : Nat) : Option Binary64 := ofNat? (Nat.pow 10 k)

/-- Divides so many times by `10 ^ 308`; zero stays zero. -/
def divHugePowers? : Nat → Binary64 → Option Binary64
  | 0, x => some x
  | steps + 1, x =>
    if x.isZero then some x
    else do divHugePowers? steps (← x.div? (← powerOfTen? 308))

/-- Divides by a power of ten, at most 308 digits at a time. -/
def divPowerOfTen? (x : Binary64) (k : Nat) : Option Binary64 := do
  let steps := (k - 1) / 308
  let y ← divHugePowers? steps x
  y.div? (← powerOfTen? (k - 308 * steps))

/-- Multiplies by a power of ten; the product must stay finite. -/
def mulPowerOfTen? (x : Binary64) (k : Nat) : Option Binary64 :=
  if 308 < k then if x.isZero then some x else none
  else do x.mul? (← powerOfTen? k)

/-- The number `significand * 10 ^ exponent`, rounded after each step. -/
def ofDecimal? (negative : Bool) (significand : Nat) (exponent : Int) : Option Binary64 := do
  let x ← ofNat? significand
  let y ← if exponent < 0 then x.divPowerOfTen? exponent.natAbs
    else x.mulPowerOfTen? exponent.natAbs
  return { y with negative := negative }

end Binary64
end ShuttleDesk.Decimal
