/-
  ShuttleDesk/Token/Base64Url.lean
  ================================
  Bytes as text of sixty-four letters that are safe in addresses, without padding.
  Three bytes make four letters; one or two bytes at the end make two or three
  letters, whose unused bits are zero.  Reading accepts exactly what writing makes.
-/
import ShuttleDesk.Text.Utf8

namespace ShuttleDesk.Base64Url

def letter (n : Nat) : UInt8 :=
  if n < 26 then 'A'.toUInt8 + n.toUInt8
  else if n < 52 then 'a'.toUInt8 + (n - 26).toUInt8
  else if n < 62 then '0'.toUInt8 + (n - 52).toUInt8
  else if n = 62 then '-'.toUInt8
  else '_'.toUInt8

def number? (b : UInt8) : Option Nat :=
  if 'A'.toUInt8 ≤ b ∧ b ≤ 'Z'.toUInt8 then some (b.toNat - 'A'.toNat)
  else if 'a'.toUInt8 ≤ b ∧ b ≤ 'z'.toUInt8 then some (b.toNat - 'a'.toNat + 26)
  else if '0'.toUInt8 ≤ b ∧ b ≤ '9'.toUInt8 then some (b.toNat - '0'.toNat + 52)
  else if b = '-'.toUInt8 then some 62
  else if b = '_'.toUInt8 then some 63
  else none

def encode : Bytes → Bytes
  | [] => []
  | [a] =>
    let n := a.toNat
    [letter (n / 4), letter (n % 4 * 16)]
  | [a, b] =>
    let n := a.toNat * 256 + b.toNat
    [letter (n / 1024), letter (n / 16 % 64), letter (n % 16 * 4)]
  | a :: b :: c :: rest =>
    let n := (a.toNat * 256 + b.toNat) * 256 + c.toNat
    letter (n / 262144) :: letter (n / 4096 % 64) :: letter (n / 64 % 64) :: letter (n % 64)
      :: encode rest

/-- The bytes that these letters are written for, if there are any. -/
def decode? : Bytes → Option Bytes
  | [] => some []
  | [_] => none
  | [a, b] => do
    let n := (← number? a) * 64 + (← number? b)
    if n % 16 = 0 then return [(n / 16).toUInt8] else none
  | [a, b, c] => do
    let n := ((← number? a) * 64 + (← number? b)) * 64 + (← number? c)
    if n % 4 = 0 then return [(n / 1024).toUInt8, (n / 4 % 256).toUInt8] else none
  | a :: b :: c :: d :: rest => do
    let n := (((← number? a) * 64 + (← number? b)) * 64 + (← number? c)) * 64 + (← number? d)
    let tail ← decode? rest
    return (n / 65536).toUInt8 :: (n / 256 % 256).toUInt8 :: (n % 256).toUInt8 :: tail

end ShuttleDesk.Base64Url
