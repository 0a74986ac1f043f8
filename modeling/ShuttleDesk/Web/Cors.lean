/-
  ShuttleDesk/Web/Cors.lean
  =========================
  Which pages of other origins may use the desk.  The origins are set once; each
  must be a value that can stand in a header, and none may be the wildcard.  A
  request of an allowed origin is told so, and every `OPTIONS` request is answered
  with what is allowed at all.
-/
import ShuttleDesk.Web.Message

namespace ShuttleDesk.Web.Cors

/-- Why origins cannot be used. -/
inductive BadOrigin where
  | notAHeader (origin : String)
  | wildcard
  deriving DecidableEq, Repr

def BadOrigin.message : BadOrigin → String
  | .notAHeader origin =>
    "Invalid CORS origin '" ++ origin ++ "': failed to parse header value"
  | .wildcard =>
    let tick := String.singleton (Char.ofNat 0x60)
    "Wildcard origin (" ++ tick ++ "*" ++ tick ++ ") cannot be passed to " ++ tick
      ++ "AllowOrigin::list" ++ tick ++ ". Use " ++ tick ++ "AllowOrigin::any()" ++ tick
      ++ " instead"

def notInHeader (c : Char) : Bool := (c.toNat < 0x20 && c ≠ '\t') || c.toNat = 0x7F

def check (origins : List String) : Except BadOrigin Unit :=
  match origins.find? fun o => o.toList.any notInHeader with
  | some o => .error (.notAHeader o)
  | none => if origins.contains "*" then .error .wildcard else .ok ()

/-- Credentials may always be sent. -/
def credentials : String × String := ("access-control-allow-credentials", "true")

/-- The origin of a request, if it is allowed. -/
def allowedOrigin (origins : List String) (r : Request) : List (String × String) :=
  match r.header? "origin" with
  | none => []
  | some o => if origins.contains o then [("access-control-allow-origin", o)] else []

def headers (origins : List String) (r : Request) : List (String × String) :=
  credentials :: allowedOrigin origins r

def preflight : List (String × String) := [
  ("access-control-allow-headers", "content-type,authorization"),
  ("access-control-allow-methods", "GET,POST,PUT"),
  ("access-control-max-age", "3600")]

end ShuttleDesk.Web.Cors
