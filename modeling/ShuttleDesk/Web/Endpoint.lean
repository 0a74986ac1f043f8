/-
  ShuttleDesk/Web/Endpoint.lean
  =============================
  What a request asks for.  A path leads to the health check or to one or two
  endpoints of the desk, which differ by method; a segment of the path that holds an
  id is kept as it stands.  Every endpoint has a gate, the role that is required.
-/
import ShuttleDesk.Status

namespace ShuttleDesk.Web

/-- A segment of a path that holds an id. -/
abbrev Segment := List Char

/-- What can be asked of the desk. -/
inductive Endpoint where
  | createRequest
  | listRequests
  | editRequest (id : Segment)
  | listDrivers
  | createDriver
  | updateDriver (id : Segment)
  | listUsers
  | setStaff (id : Segment)
  | unsetStaff (id : Segment)
  | pendingRequests
  | createShift
  | dashboard
  | updateShift (id : Segment)
  | assignStudent (id : Segment)
  | removeStudent (id : Segment)
  | assignStaff (id : Segment)
  | removeStaff (id : Segment)
  | publishShift (id : Segment)
  deriving DecidableEq, Repr

namespace Endpoint

def method : Endpoint → String
  | listRequests | listDrivers | listUsers | pendingRequests | dashboard => "GET"
  | editRequest _ | updateDriver _ | updateShift _ => "PUT"
  | _ => "POST"

/-- The role that an endpoint requires. -/
def gate : Endpoint → Role
  | createRequest | listRequests | editRequest _ => .student
  | listUsers | setStaff _ | unsetStaff _ | assignStaff _ => .admin
  | _ => .staff

end Endpoint

/-- What a request asks for. -/
inductive Route where
  | health
  | desk (e : Endpoint)
  deriving DecidableEq, Repr

def Route.method : Route → String
  | health => "GET"
  | desk e => e.method

/-! ### Paths -/

def segmentsOf : List Char → List Segment
  | [] => [[]]
  | c :: cs =>
    if c = '/' then [] :: segmentsOf cs
    else
      match segmentsOf cs with
      | [] => [[c]]
      | s :: rest => (c :: s) :: rest

/-- An endpoint for an id at the end of a path, where an empty segment is none. -/
def atEnd (id : Segment) (e : Segment → Endpoint) : List Endpoint :=
  if id.isEmpty then [] else [e id]

def shiftAction (id : Segment) (action : String) : List Endpoint :=
  if action = "assign-student" then [.assignStudent id]
  else if action = "remove-student" then [.removeStudent id]
  else if action = "assign-staff" then [.assignStaff id]
  else if action = "remove-staff" then [.removeStaff id]
  else if action = "publish" then [.publishShift id]
  else []

def userAction (id : Segment) (action : String) : List Endpoint :=
  if action = "set-staff" then [.setStaff id]
  else if action = "unset-staff" then [.unsetStaff id]
  else []

def studentEndpoints : List Segment → List Endpoint
  | [a] => if String.ofList a = "requests" then [.createRequest] else []
  | [a, b] =>
    if String.ofList a = "requests" then
      if String.ofList b = "my" then [.listRequests] else atEnd b .editRequest
    else []
  | _ => []

def adminEndpoints : List Segment → List Endpoint
  | [a] =>
    let a := String.ofList a
    if a = "drivers" then [.listDrivers, .createDriver]
    else if a = "users" then [.listUsers]
    else if a = "shifts" then [.createShift]
    else []
  | [a, b] =>
    let a := String.ofList a
    if a = "drivers" then atEnd b .updateDriver
    else if a = "requests" then if String.ofList b = "pending" then [.pendingRequests] else []
    else if a = "shifts" then
      if String.ofList b = "dashboard" then [.dashboard] else atEnd b .updateShift
    else []
  | [a, b, c] =>
    let a := String.ofList a
    if a = "users" then userAction b (String.ofList c)
    else if a = "shifts" then shiftAction b (String.ofList c)
    else []
  | _ => []

/-- The routes at a path. -/
def routesAt (path : List Char) : List Route :=
  match segmentsOf path with
  | [[], a] => if String.ofList a = "health" then [.health] else []
  | [] :: a :: b :: c :: rest =>
    if String.ofList a = "api" ∧ String.ofList b = "v1" then
      if String.ofList c = "student" then (studentEndpoints rest).map .desk
      else if String.ofList c = "admin" then (adminEndpoints rest).map .desk
      else []
    else []
  | _ => []

/-- The route that a method takes; `HEAD` takes that of `GET`. -/
def routeFor? (rs : List Route) (method : String) : Option Route :=
  let wanted := if method = "HEAD" then "GET" else method
  rs.find? fun r => r.method == wanted

/-- The methods of some routes, as a header names them. -/
def allowedMethods (rs : List Route) : String :=
  ",".intercalate (rs.map fun r => if r.method = "GET" then "GET,HEAD" else r.method)

end ShuttleDesk.Web
