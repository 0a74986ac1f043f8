/-
  ShuttleDesk/Text/Percent.lean
  =============================
  Percent encoding: a byte that may not stand for itself is written as `%` and two
  upper-case hexadecimal digits.  Which bytes those are is for the caller to say.
  Decoding takes digits of either case and leaves a `%` alone that is not followed
  by two of them.
-/
import ShuttleDesk.Text.Utf8

namespace ShuttleDesk.Percent

def hexDigit (n : Nat) : Char :=
  if n < 10 then Char.ofNat ('0'.toNat + n) else Char.ofNat ('A'.toNat + (n - 10))

def hexValue? (b : UInt8) : Option Nat :=
  let n := b.toNat
  if '0'.toNat ≤ n ∧ n ≤ '9'.toNat then some (n - '0'.toNat)
  else if 'a'.toNat ≤ n ∧ n ≤ 'f'.toNat then some (n - 'a'.toNat + 10)
  else if 'A'.toNat ≤ n ∧ n ≤ 'F'.toNat then some (n - 'A'.toNat + 10)
  else none

/-- One byte, encoded unless it stands for itself. -/
def encodeByte (plain : UInt8 → Bool) (b : UInt8) : List Char :=
  if plain b then [Char.ofNat b.toNat]
  else ['%', hexDigit (b.toNat / 16), hexDigit (b.toNat % 16)]

/-- The bytes of a text, encoded unless they stand for themselves. -/
def encode (plain : UInt8 → Bool) (s : List Char) : List Char :=
  (Utf8.encode s).flatMap (encodeByte plain)

def decode : Bytes → Bytes
  | [] => []
  | [a] => [a]
  | [a, b] => [a, b]
  | a :: b :: c :: rest =>
    if a = '%'.toUInt8 then
      match hexValue? b, hexValue? c with
      | some h, some l => (h * 16 + l).toUInt8 :: decode rest
      | _, _ => a :: decode (b :: c :: rest)
    else a :: decode (b :: c :: rest)

end ShuttleDesk.Percent
