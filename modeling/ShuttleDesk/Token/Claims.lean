/-
  ShuttleDesk/Token/Claims.lean
  =============================
  What a token says and how it is written and read: a header that names the
  algorithm, and the claims about its bearer.  The claims are read a second time to
  check when the token expires and whom it is meant for; there a value of the wrong
  kind counts as absent.
-/
import ShuttleDesk.Json.Record
import ShuttleDesk.Json.Value

namespace ShuttleDesk.Token

open Json (Scan Shape)
open Json.Scan

/-- What a token says about its bearer. -/
structure Claims where
  sub : Int
  role : String
  exp : Int
  iat : Int
  jti : String
  deriving DecidableEq, Repr

/-- The algorithms that a header may name; `HS256` is the one in use. -/
inductive Algorithm where
  | hs256
  | other
  deriving DecidableEq, Repr

def Algorithm.known : List (String × Algorithm) :=
  ("HS256", hs256) ::
    ["HS384", "HS512", "ES256", "ES384", "RS256", "RS384", "RS512", "PS256", "PS384", "PS512",
      "EdDSA"].map fun name => (name, other)

/-! ### Writing -/

def headerText : List Char :=
  Json.render (.object [("typ", .string "JWT"), ("alg", .string "HS256")])

def Claims.chars (c : Claims) : List Char :=
  Json.render (.object [
    ("sub", .integer c.sub), ("role", .string c.role), ("exp", .integer c.exp),
    ("iat", .integer c.iat), ("jti", .string c.jti)])

/-! ### Reading -/

/-- Takes the texts of a list after its first bracket. -/
def textItems : Nat → Bool → Scan (List String)
  | 0, _ => fail .endInList
  | fuel + 1, first => do
    if ← Json.nextItem first then
      let s ← text
      let rest ← textItems fuel false
      return s :: rest
    else
      skip; return []

def texts : Scan (List String) := fun bs =>
  (do
    let b ← peekOr .endInValue
    if b = byte '[' then
      skip
      textItems (bs.length + 1) true
    else mismatch "a sequence" : Scan (List String)) bs

/-- Takes a description of a key, of which only the form is looked at. -/
def keyDescription : Scan Unit := do
  if (← peekOr .endInValue) = byte '\x7b' then skipValue else mismatch "a key"

def headerShape : Shape where
  name := "Header"
  fields := [
    .nullable "typ" text,
    .required "alg" (variant Algorithm.known),
    .nullable "cty" text,
    .nullable "jku" text,
    .nullable "jwk" keyDescription,
    .nullable "kid" text,
    .nullable "x5u" text,
    .nullable "x5c" texts,
    .nullable "x5t" text,
    .nullable "x5t#S256" text]

/-- The algorithm that the values of a header name. -/
def headerAlgorithm : Json.Values headerShape.fields → Algorithm
  | (_, alg, _) => alg

def readAlgorithm (bs : Bytes) : Except Json.Misread Algorithm :=
  (Json.readWhole headerShape bs).map headerAlgorithm

def claimsShape : Shape where
  name := "Claims"
  fields := [
    .required "sub" int64,
    .required "role" text,
    .required "exp" int64,
    .required "iat" int64,
    .required "jti" text]

def Claims.ofValues : Json.Values claimsShape.fields → Claims
  | (sub, role, exp, iat, jti, ()) => { sub, role, exp, iat, jti }

def Claims.read (bs : Bytes) : Except Json.Misread Claims :=
  (Json.readWhole claimsShape bs).map Claims.ofValues

/-! ### Reading again for the checks -/

/-- Takes a moment: an integer that is not negative counts, any other single value and an
empty list or object do not; a list or object that is not empty cannot be passed. -/
def moment : Scan (Option Int) := do
  let b ← peekOr .endInValue
  if b = byte '[' then
    skip
    if (← peekOr .endInList) = byte ']' then
      skip; return none
    else fail .trailingText
  else if b = byte '\x7b' then
    skip
    if (← peekOr .endInObject) = byte '\x7d' then
      skip; return none
    else fail .trailingText
  else if b = byte '-' then
    skip
    let _ ← numberRest true
    return none
  else if isDigit b then
    match ← numberRest false with
    | .integer n => return some n
    | .real _ => return none
  else
    skipValue; return none

/-- Takes an audience: a text or a list of texts that is not empty names one. -/
def audience : Scan Bool := fun bs =>
  match skipValue bs with
  | .error f => .error f
  | .ok (_, rest) =>
    match text bs, texts bs with
    | .ok _, _ => .ok (true, rest)
    | _, .ok (names, _) => .ok (!names.isEmpty, rest)
    | _, _ => .ok (false, rest)

/-- The record of the claims that are checked.  In a list they stand in this order. -/
def checkedShape : Shape where
  name := "Claims"
  fields := [
    .withDefault "exp" moment none,
    .withDefault "nbf" moment none,
    .withDefault "sub" skipValue (),
    .withDefault "iss" skipValue (),
    .withDefault "aud" audience false]

/-- When a token expires, and whether it is meant for someone in particular. -/
structure Checked where
  expires : Option Int
  hasAudience : Bool
  deriving DecidableEq, Repr

def Checked.ofValues : Json.Values checkedShape.fields → Checked
  | (expires, _, _, _, hasAudience, ()) => { expires, hasAudience }

def Checked.read (bs : Bytes) : Except Json.Misread Checked :=
  (Json.readWhole checkedShape bs).map Checked.ofValues

end ShuttleDesk.Token
