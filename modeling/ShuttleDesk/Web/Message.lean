/-
  ShuttleDesk/Web/Message.lean
  ============================
  Requests and responses.  Header names are in lower case; of a header that comes
  several times the first counts.  A response has no body, a text or a value.
-/
import ShuttleDesk.Json.Value
import ShuttleDesk.Text.Utf8

namespace ShuttleDesk.Web

/-- A request as it arrives. -/
structure Request where
  method : String
  target : String
  headers : List (String × String)
  body : Bytes
  deriving DecidableEq, Repr

namespace Request

def header? (r : Request) (name : String) : Option String := r.headers.lookup name

/-- The character may stand in a header that is read as text. -/
def isVisible (c : Char) : Bool := c = '\t' || (0x20 ≤ c.toNat && c.toNat < 0x7F)

/-- The value of a header, if it can be read as text. -/
def text? (r : Request) (name : String) : Option String :=
  (r.header? name).filter fun s => s.toList.all isVisible

/-- The path of the target: what stands before the query. -/
def path (r : Request) : List Char :=
  r.target.toList.takeWhile fun c => c ≠ '#' && c ≠ '?'

end Request

/-- The body of a response. -/
inductive Body where
  | empty
  | text (s : String)
  | value (v : Json.Value)

/-- A response. -/
structure Response where
  status : Nat
  headers : List (String × String)
  body : Body

namespace Response

def bare (status : Nat) : Response := ⟨status, [], .empty⟩

def ofValue (status : Nat) (v : Json.Value) : Response :=
  ⟨status, [("content-type", "application/json")], .value v⟩

def ofText (status : Nat) (s : String) : Response :=
  ⟨status, [("content-type", "text/plain; charset=utf-8")], .text s⟩

def withHeaders (r : Response) (hs : List (String × String)) : Response :=
  { r with headers := r.headers ++ hs }

def withoutBody (r : Response) : Response := { r with body := .empty }

end Response
end ShuttleDesk.Web
