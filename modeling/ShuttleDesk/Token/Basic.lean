/-
  ShuttleDesk/Token/Basic.lean
  ============================
  Access tokens: header and claims in base64 letters with a point between them, and
  after another point their signature, the keyed digest of what stands before it.
  Issuing writes one; validating checks form, algorithm, signature, expiry and
  audience, in this order, and returns the claims.
-/
import ShuttleDesk.Token.Base64Url
import ShuttleDesk.Token.Claims
import ShuttleDesk.Token.Sha256

namespace ShuttleDesk.Token

/-- Why a token is not accepted. -/
inductive Fault where
  | invalidToken
  | invalidSignature
  | expiredSignature
  | invalidAudience
  | invalidAlgorithm
  | missingRequiredClaim
  | base64
  | json
  deriving DecidableEq, Repr

def Fault.name : Fault → String
  | .invalidToken => "InvalidToken"
  | .invalidSignature => "InvalidSignature"
  | .expiredSignature => "ExpiredSignature"
  | .invalidAudience => "InvalidAudience"
  | .invalidAlgorithm => "InvalidAlgorithm"
  | .missingRequiredClaim => "MissingRequiredClaim"
  | .base64 => "Base64"
  | .json => "Json"

/-- The point between the parts. -/
def point : UInt8 := '.'.toUInt8

/-- The seconds that a token is still accepted after it has expired. -/
def leeway : Int := 60

def signature (secret : Bytes) (message : Bytes) : Bytes :=
  Base64Url.encode (Sha256.keyed secret message)

/-- What is signed: header and claims. -/
def message (c : Claims) : Bytes :=
  Base64Url.encode (Utf8.encode headerText) ++ [point]
    ++ Base64Url.encode (Utf8.encode c.chars)

def issue (secret : Bytes) (c : Claims) : Bytes :=
  message c ++ [point] ++ signature secret (message c)

/-- The claims of a token for a user, from now on for some minutes. -/
def claimsFor (user : Int) (role : String) (now minutes : Int) (id : String) : Claims :=
  { sub := user, role, exp := now + minutes * 60, iat := now, jti := id }

def splitLast (bs : Bytes) : Option (Bytes × Bytes) :=
  let back := bs.reverse
  let last := back.takeWhile (· != point)
  match back.dropWhile (· != point) with
  | [] => none
  | _ :: front => some (front.reverse, last.reverse)

/-- The bytes behind base64 letters. -/
def decodePart (bs : Bytes) : Except Fault Bytes :=
  match Base64Url.decode? bs with
  | some out => .ok out
  | none => .error .base64

/-- A reading whose faults are all alike. -/
def reading {α : Type} (r : Except Json.Misread α) : Except Fault α := r.mapError fun _ => .json

def Checked.accept (c : Checked) (now : Int) : Except Fault Unit :=
  match c.expires with
  | none => .error .missingRequiredClaim
  | some exp =>
    if exp < now - leeway then .error .expiredSignature
    else if c.hasAudience then .error .invalidAudience
    else .ok ()

/-- The claims of a token that is accepted now. -/
def validate (secret : Bytes) (now : Int) (token : Bytes) : Except Fault Claims :=
  match splitLast token with
  | none => .error .invalidToken
  | some (front, sign) =>
    match splitLast front with
    | none => .error .invalidToken
    | some (header, payload) => do
      let alg ← reading (readAlgorithm (← decodePart header))
      if alg ≠ .hs256 then throw .invalidAlgorithm
      if sign ≠ signature secret front then throw .invalidSignature
      let bytes ← decodePart payload
      let claims ← reading (Claims.read bytes)
      let checked ← reading (Checked.read bytes)
      checked.accept now
      return claims

end ShuttleDesk.Token
