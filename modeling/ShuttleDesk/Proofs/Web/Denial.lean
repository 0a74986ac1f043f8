/-
  ShuttleDesk/Proofs/Web/Denial.lean
  ==================================
  Who is turned away.  A request to an endpoint of the desk gets past the gate with an
  accepted token of a role that suffices.  Without such a token it is unauthorized, and
  with one of another role it is forbidden.

  Either answer is given before anything else is looked at.  It is made of the headers of
  the request and of the role that the endpoint requires: the id in the path, the query,
  the body and the world are never read, and the world is left as it is.
-/
import ShuttleDesk.Proofs.Web.Confinement

namespace ShuttleDesk.Web

open Desk

variable {c : Context} {origins : List String} {r : Request} {e : Endpoint} {w : World}

/-- Path and method of the request lead to an endpoint of the desk. -/
def GoesTo (r : Request) (e : Endpoint) : Prop :=
  routeFor? (routesAt r.path) r.method = some (.desk e)

/-! ### The gate -/

theorem student_gate_iff :
    e.gate = .student ↔ e = .createRequest ∨ e = .listRequests ∨ ∃ id, e = .editRequest id := by
  cases e <;> simp [Endpoint.gate]

theorem admin_gate_iff :
    e.gate = .admin ↔ e = .listUsers ∨
      ∃ id, e = .setStaff id ∨ e = .unsetStaff id ∨ e = .assignStaff id := by
  cases e <;> simp [Endpoint.gate]

/-! ### The token -/

/-- A token is all that a sender can lack. -/
theorem bearerOf_of_not_carries {i : Identity} (h : ∀ claims, ¬ Carries i r claims) :
    ∃ message, bearerOf i r = .error (.unauthorized message) := by
  cases hsender : bearerOf i r with
  | ok b =>
    obtain ⟨claims, hcarries, -⟩ := bearerOf_ok_iff.1 hsender
    exact absurd hcarries (h claims)
  | error refusal =>
    unfold bearerOf at hsender
    split at hsender
    · cases hsender
      exact ⟨_, rfl⟩
    · split at hsender
      · split at hsender
        · cases hsender
        · cases hsender
          exact ⟨_, rfl⟩
      · cases hsender
        exact ⟨_, rfl⟩

/-- The token is looked for in one header. -/
theorem bearerOf_of_header? {i : Identity} {r' : Request}
    (h : r'.header? "authorization" = r.header? "authorization") :
    bearerOf i r' = bearerOf i r := by
  unfold bearerOf Request.text?
  rw [h]

theorem bearerOf_congr {i : Identity} {r' : Request} (h : r'.headers = r.headers) :
    bearerOf i r' = bearerOf i r := by
  apply bearerOf_of_header?
  rw [Request.header?, h, ← Request.header?]

/-! ### The answer -/

/-- The response that tells a refusal to the sender of a request. -/
def refusalResponse (origins : List String) (r : Request) (refusal : Refusal) : Response :=
  let response := (Exit.refused refusal).response
  (if r.method = "HEAD" then response.withoutBody else response).withHeaders
    (echoed r ++ Cors.headers origins r)

theorem refusalResponse_congr {r' : Request} (hmethod : r'.method = r.method)
    (hheaders : r'.headers = r.headers) (refusal : Refusal) :
    refusalResponse origins r' refusal = refusalResponse origins r refusal := by
  unfold refusalResponse echoed Cors.headers Cors.allowedOrigin Request.header?
  rw [hmethod, hheaders]

/-- What leads to an endpoint is answered there. -/
theorem respond_of_goesTo (h : GoesTo r e) :
    respond c origins r w =
      let (response, w') := serve c e r w
      ((if r.method = "HEAD" then response.withoutBody else response).withHeaders
        (echoed r ++ Cors.headers origins r), w') := by
  have hoptions : r.method ≠ "OPTIONS" := by
    have hmethod := method_of_routeFor? h
    rintro heq
    rw [heq] at hmethod
    rcases hmethod with hmethod | ⟨hhead, -⟩
    · have hroute : e.method = "OPTIONS" := hmethod
      rcases method_eq e with hget | hpost | hput <;> simp_all
    · simp at hhead
  have hsome : (routesAt r.path).isEmpty = false := by
    obtain ⟨route, hroute⟩ : ∃ route, route ∈ routesAt r.path := ⟨_, List.mem_of_find?_eq_some h⟩
    cases hroutes : routesAt r.path with
    | nil => simp [hroutes] at hroute
    | cons _ _ => rfl
  unfold respond dispatch
  rw [if_neg hoptions]
  simp only [hsome, Bool.false_eq_true, if_false]
  unfold GoesTo at h
  rw [h]
  rfl

theorem status_and_body_respond (c : Context) (origins : List String) (w : World) (h : GoesTo r e) :
    (respond c origins r w).1.status = (serve c e r w).1.status ∧
    (respond c origins r w).1.body =
      if r.method = "HEAD" then .empty else (serve c e r w).1.body := by
  rw [respond_of_goesTo h]
  by_cases hhead : r.method = "HEAD"
  · simp only [if_pos hhead]
    exact ⟨rfl, rfl⟩
  · simp only [if_neg hhead]
    exact ⟨rfl, rfl⟩

/-- Whom the gate does not let in gets the refusal, and nothing else is done. -/
theorem respond_of_refused {refusal : Refusal} (h : GoesTo r e)
    (hsender : allowedSender c.identity e.gate r = .error refusal) :
    respond c origins r w = (refusalResponse origins r refusal, w) := by
  have hserve : serve c e r w = ((Exit.refused refusal).response, w) := by
    simp only [serve, admittedCall, hsender]
  rw [respond_of_goesTo h, hserve]
  rfl

/-- The response tells a failure; to a `HEAD` request it tells no more than the status. -/
structure Tells (r : Request) (response : Response) (f : Failure) : Prop where
  status : response.status = f.status
  body : response.body =
    if r.method = "HEAD" then .empty
    else .value (.object [("error", .string f.message), ("code", .string f.code)])

theorem tells_refusalResponse (origins : List String) (r : Request) (refusal : Refusal) :
    Tells r (refusalResponse origins r refusal) (Failure.ofRefusal refusal) := by
  by_cases hhead : r.method = "HEAD"
  · simp only [refusalResponse, if_pos hhead]
    exact ⟨rfl, (if_pos hhead).symm⟩
  · simp only [refusalResponse, if_neg hhead]
    exact ⟨rfl, (if_neg hhead).symm⟩

/-- The sender of a request may not use an endpoint: no accepted token names an administrator or
somebody of the required role. -/
def IsTurnedAway (i : Identity) (r : Request) (e : Endpoint) : Prop :=
  ∀ claims, Carries i r claims → claims.role ≠ "admin" ∧ claims.role ≠ e.gate.name

theorem IsTurnedAway.exists_refusal {i : Identity} (h : IsTurnedAway i r e) :
    ∃ refusal, allowedSender i e.gate r = .error refusal := by
  cases hsender : allowedSender i e.gate r with
  | error refusal => exact ⟨refusal, rfl⟩
  | ok b =>
    obtain ⟨hbearer, hpasses⟩ := allowedSender_ok_iff.1 hsender
    obtain ⟨claims, hcarries, rfl⟩ := bearerOf_ok_iff.1 hbearer
    obtain ⟨hadmin, hgate⟩ := h claims hcarries
    rcases passes_iff.1 hpasses with hrole | hrole
    · exact absurd hrole hadmin
    · exact absurd hrole hgate

/-- A request to an endpoint is unauthorized without an accepted token, and forbidden with a token
whose role is neither the required one nor that of administrators.  Who is turned away gets the
same answer in every world, and so does every other request with these headers whose endpoint
requires the same role, whatever its id, its query and its body; and the world stays as it is. -/
theorem respond_turns_away (c : Context) (origins : List String) (r : Request) (e : Endpoint)
    (w : World) (h : GoesTo r e) :
    -- riders' endpoints, administrators' endpoints, and all others are for staff
    (e.gate = .student ↔ e = .createRequest ∨ e = .listRequests ∨ ∃ id, e = .editRequest id) ∧
    (e.gate = .admin ↔ e = .listUsers ∨
      ∃ id, e = .setStaff id ∨ e = .unsetStaff id ∨ e = .assignStaff id) ∧
    ((∀ claims, ¬ Carries c.identity r claims) →
      ∃ message, Tells r (respond c origins r w).1 ⟨401, "UNAUTHORIZED", message⟩) ∧
    (∀ claims, Carries c.identity r claims → claims.role ≠ "admin" → claims.role ≠ e.gate.name →
      Tells r (respond c origins r w).1 ⟨403, "FORBIDDEN", e.gate.name ++ " role required"⟩) ∧
    (IsTurnedAway c.identity r e → ∀ (r' : Request) (e' : Endpoint) (w' : World), GoesTo r' e' →
      r'.method = r.method → r'.headers = r.headers → e'.gate = e.gate →
      respond c origins r' w' = ((respond c origins r w).1, w')) := by
  refine ⟨student_gate_iff, admin_gate_iff, ?_, ?_, ?_⟩
  · intro hnone
    obtain ⟨message, hbearer⟩ := bearerOf_of_not_carries hnone
    have hsender : allowedSender c.identity e.gate r = .error (.unauthorized message) := by
      simp only [allowedSender, hbearer]
    rw [respond_of_refused h hsender]
    exact ⟨message, tells_refusalResponse origins r (.unauthorized message)⟩
  · intro claims hcarries hadmin hgate
    have hbearer := bearerOf_ok_iff.2 ⟨claims, hcarries, rfl⟩
    have hpasses : ¬ Role.passes claims.role e.gate.name = true := by
      rw [passes_iff]
      exact not_or.2 ⟨hadmin, hgate⟩
    have hsender : allowedSender c.identity e.gate r
        = .error (.forbidden (e.gate.name ++ " role required")) := by
      simp only [allowedSender, hbearer, if_neg hpasses]
    rw [respond_of_refused h hsender]
    exact tells_refusalResponse origins r (.forbidden (e.gate.name ++ " role required"))
  · intro haway r' e' w' h' hmethod hheaders hgate
    obtain ⟨refusal, hsender⟩ := haway.exists_refusal
    have hsender' : allowedSender c.identity e'.gate r' = .error refusal := by
      rw [← hsender, hgate]
      unfold allowedSender
      rw [bearerOf_congr hheaders]
    rw [respond_of_refused h hsender, respond_of_refused h' hsender',
      refusalResponse_congr hmethod hheaders]

/-- A rider asks for the publication of a shift: whichever shift it is and whether it is there, the
answer is the one that the rider gets for another shift in an empty store. -/
theorem respond_turns_rider_away :
    let publication := sentBy 1 .student "POST" "/api/v1/admin/shifts/1/publish"
    let other := sentBy 1 .student "POST" "/api/v1/admin/shifts/none/publish?q"
    let empty := World.empty ⟨5⟩
    GoesTo publication (.publishShift ['1']) ∧
    Tells publication (respond smallContext [] publication smallDesk).1
      ⟨403, "FORBIDDEN", "staff role required"⟩ ∧
    respond smallContext [] other empty
      = ((respond smallContext [] publication smallDesk).1, empty) := by
  intro publication other empty
  have hgoes : GoesTo publication (.publishShift ['1']) := by
    unfold GoesTo
    decide +kernel
  have hother : GoesTo other (.publishShift "none".toList) := by
    unfold GoesTo
    decide +kernel
  have hbearer : bearerOf smallContext.identity publication = .ok ⟨1, "student"⟩ := by
    decide +kernel
  obtain ⟨claims, hcarries, hclaims⟩ := bearerOf_ok_iff.1 hbearer
  have hrole : claims.role = "student" := congrArg Bearer.role hclaims
  have hadmin : claims.role ≠ "admin" := by simp [hrole]
  have hgate : claims.role ≠ Role.staff.name := by simp [hrole, Role.name]
  have haway : IsTurnedAway smallContext.identity publication (.publishShift ['1']) := by
    intro claims' hcarries'
    have hsame := bearerOf_ok_iff.2 ⟨claims', hcarries', rfl⟩
    rw [hbearer] at hsame
    have hrole' : "student" = claims'.role := congrArg Bearer.role (Except.ok.inj hsame)
    rw [← hrole']
    exact ⟨by decide, by decide⟩
  obtain ⟨-, -, -, hforbidden, hsame⟩ :=
    respond_turns_away smallContext [] publication (.publishShift ['1']) smallDesk hgoes
  exact ⟨hgoes, hforbidden claims hcarries hadmin hgate, hsame haway other _ empty hother rfl rfl rfl⟩

end ShuttleDesk.Web
