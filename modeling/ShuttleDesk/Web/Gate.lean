/-
  ShuttleDesk/Web/Gate.lean
  =========================
  Who sends a request, and whether the sender may.  The sender is whoever the
  bearer token names; roles are those of the token.
-/
import ShuttleDesk.Refusal
import ShuttleDesk.Status
import ShuttleDesk.Token.Basic
import ShuttleDesk.Web.Message

namespace ShuttleDesk.Web

/-- The sender of a request. -/
structure Bearer where
  userId : Int
  role : String
  deriving DecidableEq, Repr

/-- What the checks of a token need to know. -/
structure Identity where
  secret : Bytes
  now : Int
  deriving DecidableEq, Repr

/-- What stands in front of a token. -/
def bearerMark : List Char := "Bearer ".toList

/-- The sender that the token of a request names. -/
def bearerOf (i : Identity) (r : Request) : Except Refusal Bearer :=
  match r.text? "authorization" with
  | none => .error (.unauthorized "Missing Authorization header")
  | some s =>
    if bearerMark.isPrefixOf s.toList then
      match Token.validate i.secret i.now (Utf8.encode (s.toList.drop bearerMark.length)) with
      | .ok c => .ok { userId := c.sub, role := c.role }
      | .error _ => .error (.unauthorized "Invalid or expired token")
    else
      .error (.unauthorized "Invalid Authorization format. Expected: Bearer <token>")

/-- The sender of a request, who must pass the gate. -/
def allowedSender (i : Identity) (required : Role) (r : Request) : Except Refusal Bearer :=
  match bearerOf i r with
  | .error e => .error e
  | .ok b =>
    if Role.passes b.role required.name then .ok b
    else .error (.forbidden (required.name ++ " role required"))

end ShuttleDesk.Web
