/-
  ShuttleDesk/Json/Scan.lean
  ==========================
  Reading from the front of a text of bytes.  A scan takes what it reads and
  leaves the rest, or says why it cannot.  Here are the parts all readings share:
  blanks, literals, strings and numbers.

  The bytes of a string are collected without looking at their encoding, which is
  checked once at the closing quote.  A number without point and exponent is an
  integer if it fits a word; any other is a floating point number, whose digits
  beyond a word are dropped.
-/
import ShuttleDesk.Json.Fault
import ShuttleDesk.Text.Utf8

namespace ShuttleDesk.Json

/-- Takes a reading from the front of a text and leaves the rest. -/
abbrev Scan (α : Type) := StateT Bytes (Except Fault) α

namespace Scan

def byte (c : Char) : UInt8 := c.toUInt8

def fail {α : Type} (f : Fault) : Scan α := fun _ => .error f

def isBlank (b : UInt8) : Bool := b == 0x20 || b == 0x0A || b == 0x0D || b == 0x09

/-- Skips blanks and shows the byte after them, if there is one. -/
def peek : Scan (Option UInt8) := fun bs =>
  let rest := bs.dropWhile isBlank
  .ok (rest.head?, rest)

/-- Skips blanks and shows the byte after them; the text may not end there. -/
def peekOr (f : Fault) : Scan UInt8 := do
  match ← peek with
  | some b => return b
  | none => fail f

def skip : Scan Unit := fun bs => .ok ((), bs.drop 1)

def finish : Scan Unit := do
  match ← peek with
  | none => return ()
  | some _ => fail .trailingText

/-- Takes the given bytes, one after the other. -/
def literal : List UInt8 → Bytes → Except Fault (Unit × Bytes)
  | [], bs => .ok ((), bs)
  | _ :: _, [] => .error .endInValue
  | w :: ws, b :: bs => if b = w then literal ws bs else .error .expectedLiteral

def word (rest : String) : Scan Unit := literal (Utf8.ofString rest)

/-! ### Strings -/

def hexValue? (b : UInt8) : Option Nat :=
  if byte '0' ≤ b ∧ b ≤ byte '9' then some (b.toNat - (byte '0').toNat)
  else if byte 'a' ≤ b ∧ b ≤ byte 'f' then some (b.toNat - (byte 'a').toNat + 10)
  else if byte 'A' ≤ b ∧ b ≤ byte 'F' then some (b.toNat - (byte 'A').toNat + 10)
  else none

def hexFour : Bytes → Except Fault (Nat × Bytes)
  | a :: b :: c :: d :: rest =>
    match hexValue? a, hexValue? b, hexValue? c, hexValue? d with
    | some a, some b, some c, some d => .ok (((a * 16 + b) * 16 + c) * 16 + d, rest)
    | _, _, _, _ => .error .invalidEscape
  | _ => .error .endInString

/-- A code unit that opens a pair. -/
def isLeading (n : Nat) : Bool := 0xD800 ≤ n && n ≤ 0xDBFF

/-- A code unit that closes a pair. -/
def isTrailing (n : Nat) : Bool := 0xDC00 ≤ n && n ≤ 0xDFFF

def pairValue (high low : Nat) : Nat := 0x10000 + (high - 0xD800) * 0x400 + (low - 0xDC00)

/-- Takes the second half of a pair, with its own escape. -/
def closingUnit : Bytes → Except Fault (Nat × Bytes)
  | [] => .error .endInString
  | b :: bs =>
    if b ≠ byte '\\' then .error .unfinishedSurrogate
    else match bs with
      | [] => .error .endInString
      | u :: rest =>
        if u ≠ byte 'u' then .error .unfinishedSurrogate
        else match hexFour rest with
          | .error f => .error f
          | .ok (n, rest) => if isTrailing n then .ok (n, rest) else .error .loneSurrogate

def codePoint (n : Nat) : Bytes := String.utf8EncodeChar (Char.ofNat n)

/-- Takes an escape by number, after its `u`. -/
def numberEscape (bs : Bytes) : Except Fault (Bytes × Bytes) :=
  match hexFour bs with
  | .error f => .error f
  | .ok (n, rest) =>
    if isTrailing n then .error .loneSurrogate
    else if isLeading n then
      match closingUnit rest with
      | .error f => .error f
      | .ok (m, rest) => .ok (codePoint (pairValue n m), rest)
    else .ok (codePoint n, rest)

def letterEscape? (b : UInt8) : Option UInt8 :=
  if b = byte '"' ∨ b = byte '\\' ∨ b = byte '/' then some b
  else if b = byte 'b' then some 0x08
  else if b = byte 'f' then some 0x0C
  else if b = byte 'n' then some 0x0A
  else if b = byte 'r' then some 0x0D
  else if b = byte 't' then some 0x09
  else none

/-- Takes an escape after its backslash.  Where the string is only skipped, an escape by
number may have any four digits. -/
def escape (skipped : Bool) : Bytes → Except Fault (Bytes × Bytes)
  | [] => .error .endInString
  | b :: rest =>
    match letterEscape? b with
    | some c => .ok ([c], rest)
    | none =>
      if b = byte 'u' then
        if skipped then (hexFour rest).map fun p => ([], p.2) else numberEscape rest
      else .error .invalidEscape

theorem hexFour_shorter {bs rest : Bytes} {n : Nat} (h : hexFour bs = .ok (n, rest)) :
    rest.length < bs.length := by
  unfold hexFour at h
  split at h
  · split at h
    · cases h
      simp only [List.length_cons]
      omega
    · cases h
  · cases h

theorem closingUnit_shorter {bs rest : Bytes} {n : Nat} (h : closingUnit bs = .ok (n, rest)) :
    rest.length < bs.length := by
  match bs with
  | [] => simp [closingUnit] at h
  | [b] =>
    simp only [closingUnit] at h
    split at h <;> simp at h
  | b :: u :: tail =>
    simp only [closingUnit] at h
    split at h
    · simp at h
    · split at h
      · simp at h
      · split at h
        · simp at h
        · rename_i hx
          have := hexFour_shorter hx
          split at h
          · simp only [Except.ok.injEq, Prod.mk.injEq] at h
            obtain ⟨_, rfl⟩ := h
            simp only [List.length_cons]
            omega
          · simp at h

theorem numberEscape_shorter {bs rest out : Bytes} (h : numberEscape bs = .ok (out, rest)) :
    rest.length < bs.length := by
  unfold numberEscape at h
  split at h
  · simp at h
  · rename_i hx
    have h1 := hexFour_shorter hx
    split at h
    · simp at h
    · split at h
      · split at h
        · simp at h
        · rename_i hy
          have h2 := closingUnit_shorter hy
          simp only [Except.ok.injEq, Prod.mk.injEq] at h
          obtain ⟨_, rfl⟩ := h
          omega
      · simp only [Except.ok.injEq, Prod.mk.injEq] at h
        obtain ⟨_, rfl⟩ := h
        exact h1

theorem escape_shorter {skipped : Bool} {bs rest out : Bytes}
    (h : escape skipped bs = .ok (out, rest)) : rest.length < bs.length := by
  unfold escape at h
  split at h
  · cases h
  · split at h
    · cases h
      simp
    · split at h
      · split at h
        · rename_i tail _ _ _ _
          cases hx : hexFour tail with
          | error f => simp [hx, Except.map] at h
          | ok p =>
            simp only [hx, Except.map, Except.ok.injEq, Prod.mk.injEq] at h
            obtain ⟨n, r⟩ := p
            have := hexFour_shorter hx
            simp only [List.length_cons]
            have : r = rest := h.2
            subst this
            omega
        · have := numberEscape_shorter h
          simp only [List.length_cons]
          omega
      · cases h

def stringBytes (skipped : Bool) : Bytes → Except Fault (Bytes × Bytes)
  | [] => .error .endInString
  | b :: bs =>
    if b = byte '"' then .ok ([], bs)
    else if b = byte '\\' then
      match h : escape skipped bs with
      | .error f => .error f
      | .ok (out, rest) =>
        have := escape_shorter h
        (stringBytes skipped rest).map fun p => (out ++ p.1, p.2)
    else if b < 0x20 then .error .controlCharacter
    else (stringBytes skipped bs).map fun p => (b :: p.1, p.2)
termination_by bs => bs.length

/-- Takes a string after its opening quote and reads its bytes as text. -/
def stringRest : Scan String := fun bs =>
  match stringBytes false bs with
  | .error f => .error f
  | .ok (out, rest) =>
    match Utf8.toString? out with
    | some s => .ok (s, rest)
    | none => .error .invalidUtf8

def skipStringRest : Scan Unit := fun bs => (stringBytes true bs).map fun p => ((), p.2)

/-! ### Numbers -/

def digitValue? (b : UInt8) : Option Nat :=
  if byte '0' ≤ b ∧ b ≤ byte '9' then some (b.toNat - (byte '0').toNat) else none

/-- The digits in front of a text, and the rest. -/
def digits : Bytes → List Nat × Bytes
  | [] => ([], [])
  | b :: bs =>
    match digitValue? b with
    | some d => (d :: (digits bs).1, (digits bs).2)
    | none => ([], b :: bs)

/-- The digits of a numeral that may not begin with a zero, unless it is zero. -/
def wholeDigits (bs : Bytes) : Except Fault (List Nat × Bytes) :=
  match digits bs with
  | ([], _) => .error (if bs.isEmpty then .endInValue else .invalidNumber)
  | (0 :: _ :: _, _) => .error .invalidNumber
  | (ds, rest) => .ok (ds, rest)

def greatestSignificand : Nat := Numeral.Bounds.unsigned64.greatest.toNat

/-- Appends digits to a significand while it stays exact, and returns the others. -/
def accumulate (significand : Nat) : List Nat → Nat × List Nat
  | [] => (significand, [])
  | d :: ds =>
    if significand * 10 + d ≤ greatestSignificand then accumulate (significand * 10 + d) ds
    else (significand, d :: ds)

/-- A number as it stands in a text. -/
inductive Number where
  | integer (n : Int)
  | real (x : Decimal.Binary64)
  deriving DecidableEq, Repr

/-- A floating point number from its significand and exponent. -/
def realOf (negative : Bool) (significand : Nat) (exponent : Int) : Except Fault Number :=
  match Decimal.Binary64.ofDecimal? negative significand exponent with
  | some x => .ok (.real x)
  | none => .error .numberTooLarge

/-- The greatest exponent that is read as it stands. -/
def greatestExponent : Nat := Numeral.Bounds.signed32.greatest.toNat

/-- An exponent after its sign; the number is zero or too large if the exponent is. -/
def withExponent (negative : Bool) (significand : Nat) (start : Int) (negativeExponent : Bool)
    (ds : List Nat) : Except Fault Number :=
  let e := ds.foldl (fun n d => n * 10 + d) 0
  if greatestExponent < e then
    if significand ≠ 0 ∧ !negativeExponent then .error .numberTooLarge
    else realOf negative 0 0
  else realOf negative significand (if negativeExponent then start - e else start + e)

def exponentRest (negative : Bool) (significand : Nat) (start : Int) (bs : Bytes) :
    Except Fault (Number × Bytes) :=
  let sign := bs.head?
  let signed := sign == some (byte '+') || sign == some (byte '-')
  let bs := if signed then bs.drop 1 else bs
  match digits bs with
  | ([], _) => .error (if bs.isEmpty then .endInValue else .invalidNumber)
  | (ds, rest) =>
    (withExponent negative significand start (sign == some (byte '-')) ds).map (·, rest)

def isExponentMark (b : Option UInt8) : Bool := b == some (byte 'e') || b == some (byte 'E')

def fractionRest (negative : Bool) (significand : Nat) (start : Int) (bs : Bytes) :
    Except Fault (Number × Bytes) :=
  match digits bs with
  | ([], _) => .error (if bs.isEmpty then .endInValue else .invalidNumber)
  | (ds, rest) =>
    let (significand, left) := accumulate significand ds
    let exponent := start - (ds.length - left.length : Nat)
    if isExponentMark rest.head? then exponentRest negative significand exponent (rest.drop 1)
    else (realOf negative significand exponent).map (·, rest)

def plainNumber (negative : Bool) (significand dropped : Nat) : Except Fault Number :=
  if dropped ≠ 0 then realOf negative significand dropped
  else if !negative then .ok (.integer significand)
  else
    let n := -(significand : Int)
    if n = 0 ∨ n < Numeral.Bounds.signed64.least then realOf negative significand 0
    else .ok (.integer n)

def numberRest (negative : Bool) : Scan Number := fun bs =>
  match wholeDigits bs with
  | .error f => .error f
  | .ok (ds, rest) =>
    let (significand, left) := accumulate 0 ds
    if rest.head? == some (byte '.') then
      fractionRest negative significand left.length (rest.drop 1)
    else if isExponentMark rest.head? then
      exponentRest negative significand left.length (rest.drop 1)
    else (plainNumber negative significand left.length).map (·, rest)

/-- Skips digits, of which there must be one. -/
def skipDigits (bs : Bytes) : Except Fault Bytes :=
  match digits bs with
  | ([], _) => .error .invalidNumber
  | (_, rest) => .ok rest

/-- Skips an exponent, if there is one. -/
def skipExponent (bs : Bytes) : Except Fault Bytes :=
  if isExponentMark bs.head? then
    let rest := bs.drop 1
    let signed := rest.head? == some (byte '+') || rest.head? == some (byte '-')
    skipDigits (if signed then rest.drop 1 else rest)
  else .ok bs

/-- Skips a number after its sign; only its form is looked at. -/
def skipNumberRest : Scan Unit := fun bs => do
  let rest ← match digits bs with
    | ([], _) => .error .invalidNumber
    | (0 :: _ :: _, _) => .error .invalidNumber
    | (_, rest) => .ok rest
  let rest ← if rest.head? == some (byte '.') then skipDigits (rest.drop 1) else .ok rest
  return ((), ← skipExponent rest)

end Scan
end ShuttleDesk.Json
