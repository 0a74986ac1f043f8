/-
  ShuttleDesk/Decimal/Shortest.lean
  =================================
  The shortest decimal text of a floating point number: the fewest digits that
  read back as the same number, and of those the nearest.  The digits are searched
  on coarser to finer decimal grids; on each grid only the two neighbours of the
  number can lie in the interval of fractions that round to it.

  Numbers from `0.00001` up to sixteen digits before the point are written
  positionally and always with a point; others with one digit in front and an
  exponent of at least two digits and a sign.
-/
import ShuttleDesk.Decimal.Binary64
import ShuttleDesk.Numeral

namespace ShuttleDesk.Decimal.Shortest

/-- The fractions that round to a number, in quarters of its last binary digit: the number
itself, the lower and the upper end, and whether the ends belong to it. -/
structure Interval where
  value : Nat
  lower : Nat
  upper : Nat
  closed : Bool
  deriving Repr

/-- The interval of a number whose magnitude is not zero. -/
def interval (x : Binary64) : Interval :=
  let narrow := x.mantissa = Nat.pow 2 52 ∧ Binary64.leastExponent < x.exponent
  { value := 4 * x.mantissa
    lower := 4 * x.mantissa - if narrow then 1 else 2
    upper := 4 * x.mantissa + 2
    closed := x.mantissa % 2 == 0 }

/-- `10 ^ k` as a fraction. -/
def gridStep (k : Int) : Nat × Nat :=
  if k < 0 then (1, Nat.pow 10 k.natAbs) else (Nat.pow 10 k.natAbs, 1)

/-- The point `n * 10 ^ k` lies in the interval, whose unit is `num / den`. -/
def Interval.holds (iv : Interval) (num den : Nat) (k : Int) (n : Nat) : Bool :=
  let (s, t) := gridStep k
  let point := n * s * den
  let lower := iv.lower * num * t
  let upper := iv.upper * num * t
  if iv.closed then lower ≤ point && point ≤ upper else lower < point && point < upper

/-- The grid point in the interval nearest to the number, if there is one. -/
def onGrid (iv : Interval) (num den : Nat) (k : Int) : Option Nat :=
  let (s, t) := gridStep k
  let top := iv.value * num * t
  let unit := s * den
  let below := top / unit
  match iv.holds num den k below && below != 0, iv.holds num den k (below + 1) with
  | true, true => some (Binary64.roundDiv top unit)
  | true, false => some below
  | false, true => some (below + 1)
  | false, false => none

/-- Searches the grids from `10 ^ k` downwards. -/
def search (iv : Interval) (num den : Nat) : Nat → Int → Nat × Int
  | 0, k => (iv.value * num / den, k)
  | fuel + 1, k =>
    match onGrid iv num den k with
    | some n => (n, k)
    | none => search iv num den fuel (k - 1)

/-- Takes the zeros at the end of a numeral into the exponent. -/
def dropZeros : Nat → Nat × Int → Nat × Int
  | 0, p => p
  | fuel + 1, (n, k) => if n % 10 = 0 ∧ n ≠ 0 then dropZeros fuel (n / 10, k + 1) else (n, k)

/-- The significand and exponent of the shortest decimal of a magnitude that is not zero. -/
def decimal (x : Binary64) : Nat × Int :=
  let unit : Int := x.exponent - 2
  let num := if unit < 0 then 1 else Nat.pow 2 unit.natAbs
  let den := if unit < 0 then Nat.pow 2 unit.natAbs else 1
  let iv := interval x
  let whole := (Nat.toDigits 10 (iv.value * num / den)).length
  let start : Int := if 0 < iv.value * num / den then whole
    else -((Nat.toDigits 10 (den / (iv.value * num))).length : Int) + 1
  dropZeros 20 (search iv num den 25 start)

/-- The digits with the point after the given number of them. -/
def positional (ds : List Char) (point : Int) : List Char :=
  if point ≤ 0 then ['0', '.'] ++ List.replicate point.natAbs '0' ++ ds
  else if ds.length ≤ point.natAbs then
    ds ++ List.replicate (point.natAbs - ds.length) '0' ++ ['.', '0']
  else ds.take point.natAbs ++ ['.'] ++ ds.drop point.natAbs

/-- One digit, the others after a point, and an exponent. -/
def scientific (ds : List Char) (exponent : Int) : List Char :=
  let rest := ds.drop 1
  ds.take 1 ++ (if rest.isEmpty then [] else '.' :: rest)
    ++ ['e', if exponent < 0 then '-' else '+'] ++ Numeral.padded 2 exponent.natAbs

def magnitude (x : Binary64) : List Char :=
  if x.isZero then ['0', '.', '0']
  else
    let (n, k) := decimal x
    let ds := Numeral.digits n
    let exponent : Int := k + ds.length - 1
    if -5 ≤ exponent ∧ exponent ≤ 15 then positional ds (exponent + 1)
    else scientific ds exponent

def text (x : Binary64) : String :=
  String.ofList ((if x.negative then ['-'] else []) ++ magnitude x)

end ShuttleDesk.Decimal.Shortest
