/-
  ShuttleDesk/Web/Router.lean
  ===========================
  The desk over the web: a request is answered and may change the world.  A path
  without routes is not found; a path that has routes, but none for the method, is
  answered with the methods it has.  A request's own number is sent back.
-/
import ShuttleDesk.Web.Cors
import ShuttleDesk.Web.Handler

namespace ShuttleDesk.Web

def requestIdHeader : String := "x-request-id"

/-- The number of a request, sent back. -/
def echoed (r : Request) : List (String × String) :=
  (r.header? requestIdHeader).toList.map fun v => (requestIdHeader, v)

def allowHeader (rs : List Route) : List (String × String) :=
  if rs.isEmpty then [] else [("allow", allowedMethods rs)]

def dispatch (c : Context) (r : Request) (w : World) : Response × World :=
  let routes := routesAt r.path
  if routes.isEmpty then (.bare 404, w)
  else
    match routeFor? routes r.method with
    | none => ((Response.bare 405).withHeaders (allowHeader routes), w)
    | some route =>
      let (response, w') := answer c r w route
      (if r.method = "HEAD" then response.withoutBody else response, w')

/-- The response to a request. -/
def respond (c : Context) (origins : List String) (r : Request) (w : World) : Response × World :=
  if r.method = "OPTIONS" then
    ((Response.bare 200).withHeaders
      (Cors.headers origins r ++ Cors.preflight ++ allowHeader (routesAt r.path)), w)
  else
    let (response, w') := dispatch c r w
    (response.withHeaders (echoed r ++ Cors.headers origins r), w')

end ShuttleDesk.Web
