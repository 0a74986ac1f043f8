/-
  ShuttleDesk/Proofs/Web/Admission.lean
  =====================================
  What gets past the router, the token and the gate.  A request either leaves the world
  alone, or performs one call: the call of an endpoint that the method fits, for the
  sender that an accepted token names, who passes the gate of the endpoint.
-/
import ShuttleDesk.Proofs.Desk.Answers
import ShuttleDesk.Web.Router

namespace ShuttleDesk.Web

open Desk

/-! ### From requests to calls -/

/-- The call that a sender makes at an endpoint. -/
inductive Asks (b : Bearer) : Endpoint → Call → Prop where
  | createRequest (input : RequestInput) : Asks b .createRequest (.createRequest b.userId input)
  | listRequests : Asks b .listRequests (.listRequests b.userId)
  | editRequest (segment : Segment) (request : Int) (edit : RequestEdit) :
      Asks b (.editRequest segment) (.editRequest b.userId request edit)
  | listDrivers : Asks b .listDrivers .listDrivers
  | createDriver (input : DriverInput) : Asks b .createDriver (.createDriver input)
  | updateDriver (segment : Segment) (driver : Int) (input : DriverInput) :
      Asks b (.updateDriver segment) (.updateDriver driver input)
  | listUsers : Asks b .listUsers .listUsers
  | setStaff (segment : Segment) (user : Int) : Asks b (.setStaff segment) (.setStaff user)
  | unsetStaff (segment : Segment) (user : Int) : Asks b (.unsetStaff segment) (.unsetStaff user)
  | pendingRequests : Asks b .pendingRequests .pendingRequests
  | createShift (driver : Int) (departure : Calendar.DateTime) :
      Asks b .createShift (.createShift driver departure)
  | dashboard : Asks b .dashboard .dashboard
  | updateShift (segment : Segment) (shift : Int) (change : ShiftChange) :
      Asks b (.updateShift segment) (.updateShift shift change)
  | assignStudent (segment : Segment) (shift request : Int) :
      Asks b (.assignStudent segment) (.assign shift request)
  | removeStudent (segment : Segment) (shift request : Int) :
      Asks b (.removeStudent segment) (.unassign shift request)
  | assignStaff (segment : Segment) (shift user : Int) :
      Asks b (.assignStaff segment) (.assignStaff shift user)
  | removeStaff (segment : Segment) (shift user : Int) :
      Asks b (.removeStaff segment) (.removeStaff shift user)
  | publishShift (segment : Segment) (shift : Int) :
      Asks b (.publishShift segment) (.publishShift shift)

variable {b : Bearer} {e : Endpoint} {call : Call} {c : Context} {r : Request}

theorem asks_of_callFor (h : callFor b r e = .ok call) : Asks b e call := by
  cases e with
  | createRequest =>
    obtain ⟨input, -, ⟨⟩⟩ := except_bind_ok_iff.1 h
    exact .createRequest input
  | editRequest segment =>
    obtain ⟨id, -, h⟩ := except_bind_ok_iff.1 h
    obtain ⟨edit, -, ⟨⟩⟩ := except_bind_ok_iff.1 h
    exact .editRequest segment id edit
  | createDriver =>
    obtain ⟨input, -, ⟨⟩⟩ := except_bind_ok_iff.1 h
    exact .createDriver input
  | updateDriver segment =>
    obtain ⟨id, -, h⟩ := except_bind_ok_iff.1 h
    obtain ⟨input, -, ⟨⟩⟩ := except_bind_ok_iff.1 h
    exact .updateDriver segment id input
  | setStaff segment =>
    obtain ⟨id, -, ⟨⟩⟩ := except_bind_ok_iff.1 h
    exact .setStaff segment id
  | unsetStaff segment =>
    obtain ⟨id, -, ⟨⟩⟩ := except_bind_ok_iff.1 h
    exact .unsetStaff segment id
  | createShift =>
    obtain ⟨input, -, h⟩ := except_bind_ok_iff.1 h
    obtain ⟨departure, -, ⟨⟩⟩ := except_bind_ok_iff.1 h
    exact .createShift input.driverId departure
  | updateShift segment =>
    obtain ⟨id, -, h⟩ := except_bind_ok_iff.1 h
    obtain ⟨input, -, h⟩ := except_bind_ok_iff.1 h
    obtain ⟨departure, -, ⟨⟩⟩ := except_bind_ok_iff.1 h
    exact .updateShift segment id _
  | assignStudent segment =>
    obtain ⟨id, -, h⟩ := except_bind_ok_iff.1 h
    obtain ⟨request, -, ⟨⟩⟩ := except_bind_ok_iff.1 h
    exact .assignStudent segment id request
  | removeStudent segment =>
    obtain ⟨id, -, h⟩ := except_bind_ok_iff.1 h
    obtain ⟨request, -, ⟨⟩⟩ := except_bind_ok_iff.1 h
    exact .removeStudent segment id request
  | assignStaff segment =>
    obtain ⟨id, -, h⟩ := except_bind_ok_iff.1 h
    obtain ⟨user, -, ⟨⟩⟩ := except_bind_ok_iff.1 h
    exact .assignStaff segment id user
  | removeStaff segment =>
    obtain ⟨id, -, h⟩ := except_bind_ok_iff.1 h
    obtain ⟨user, -, ⟨⟩⟩ := except_bind_ok_iff.1 h
    exact .removeStaff segment id user
  | publishShift segment =>
    obtain ⟨id, -, ⟨⟩⟩ := except_bind_ok_iff.1 h
    exact .publishShift segment id
  | listRequests =>
    cases h
    exact .listRequests
  | listDrivers =>
    cases h
    exact .listDrivers
  | listUsers =>
    cases h
    exact .listUsers
  | pendingRequests =>
    cases h
    exact .pendingRequests
  | dashboard =>
    cases h
    exact .dashboard

theorem method_eq (e : Endpoint) : e.method = "GET" ∨ e.method = "POST" ∨ e.method = "PUT" := by
  cases e <;> simp [Endpoint.method]

/-! ### The token -/

/-- The request carries a token that is accepted. -/
def Carries (i : Identity) (r : Request) (claims : Token.Claims) : Prop :=
  ∃ token : List Char, r.text? "authorization" = some (String.ofList (bearerMark ++ token)) ∧
    Token.validate i.secret i.now (Utf8.encode token) = .ok claims

theorem bearerOf_ok_iff {i : Identity} :
    bearerOf i r = .ok b ↔ ∃ claims, Carries i r claims ∧ ⟨claims.sub, claims.role⟩ = b := by
  unfold bearerOf Carries
  cases r.text? "authorization" with
  | none => simp
  | some s =>
    by_cases hmark : bearerMark.isPrefixOf s.toList = true
    · obtain ⟨token, htoken⟩ := List.isPrefixOf_iff_prefix.1 hmark
      have hs : s = String.ofList (bearerMark ++ token) := by rw [htoken, String.ofList_toList]
      have hdrop : s.toList.drop bearerMark.length = token := by
        rw [← htoken, List.drop_left]
      simp only [hmark, if_true, hdrop]
      constructor
      · intro h
        cases hvalid : Token.validate i.secret i.now (Utf8.encode token) with
        | error f => simp [hvalid] at h
        | ok claims =>
          simp only [hvalid, Except.ok.injEq] at h
          exact ⟨claims, ⟨token, by rw [← hs], hvalid⟩, h⟩
      · rintro ⟨claims, ⟨token', heq, hvalid⟩, rfl⟩
        -- what stands behind the mark is the token
        have htokens : token' = token := by
          rw [hs, Option.some.injEq] at heq
          simpa using (congrArg String.toList heq).symm
        simp only [htokens ▸ hvalid]
    · simp only [hmark]
      constructor
      · intro h
        cases h
      · rintro ⟨claims, ⟨token, heq, -⟩, -⟩
        simp only [Option.some.injEq] at heq
        simp [heq] at hmark

/-! ### The gate -/

theorem passes_student_iff {g : Role} :
    Role.passes Role.student.name g.name = true ↔ g = .student := by
  cases g <;> decide

theorem passes_staff_iff {g : Role} :
    Role.passes Role.staff.name g.name = true ↔ g = .staff := by
  cases g <;> decide

/-- Administrators pass every gate, and every gate passes those of its own role. -/
theorem passes_iff {role : String} {g : Role} :
    Role.passes role g.name = true ↔ role = "admin" ∨ role = g.name := by
  unfold Role.passes
  by_cases hadmin : role = Role.admin.name
  · simp [hadmin, Role.name]
  · have hadmin' : role ≠ "admin" := hadmin
    rw [if_neg hadmin]
    cases g <;> simp [Role.name, Role.nameIsStaffLike, hadmin']

/-- What passes a gate is the name of a role. -/
theorem exists_name_of_passes {role : String} {g : Role} (h : Role.passes role g.name = true) :
    ∃ known : Role, role = known.name := by
  rcases passes_iff.1 h with hadmin | hrole
  · exact ⟨.admin, hadmin⟩
  · exact ⟨g, hrole⟩

theorem allowedSender_ok_iff {i : Identity} {required : Role} :
    allowedSender i required r = .ok b ↔
      bearerOf i r = .ok b ∧ Role.passes b.role required.name = true := by
  unfold allowedSender
  cases bearerOf i r with
  | error f => simp
  | ok sender =>
    by_cases hpass : Role.passes sender.role required.name = true
    · simp only [hpass, if_true, Except.ok.injEq]
      constructor
      · rintro rfl
        exact ⟨rfl, hpass⟩
      · rintro ⟨rfl, -⟩
        rfl
    · simp only [hpass]
      constructor
      · intro h
        cases h
      · rintro ⟨heq, hpass'⟩
        cases heq
        exact absurd hpass' hpass

theorem admittedCall_ok_iff :
    admittedCall c e r = .ok call ↔
      ∃ b, bearerOf c.identity r = .ok b ∧ Role.passes b.role e.gate.name = true ∧
        callFor b r e = .ok call := by
  simp only [← and_assoc, ← allowedSender_ok_iff]
  unfold admittedCall
  cases allowedSender c.identity e.gate r with
  | error f => simp
  | ok b => simp

/-! ### The router -/

/-- The worlds that a request leads to. -/
inductive Reaches (c : Context) (r : Request) (w : World) : World → Prop where
  | untouched : Reaches c r w w
  | called {b : Bearer} {e : Endpoint} {call : Call}
      (sender : bearerOf c.identity r = .ok b)
      (passes : Role.passes b.role e.gate.name = true)
      (asks : Asks b e call)
      (method : e.method = r.method ∨ r.method = "HEAD" ∧ e.method = "GET") :
      Reaches c r w (call.perform c.lockTimeout w).2

theorem reaches_serve {w : World}
    (hmethod : e.method = r.method ∨ r.method = "HEAD" ∧ e.method = "GET") :
    Reaches c r w (serve c e r w).2 := by
  unfold serve
  cases hcall : admittedCall c e r with
  | error x => exact .untouched
  | ok call =>
    obtain ⟨b, hsender, hpasses, hfor⟩ := admittedCall_ok_iff.1 hcall
    exact .called hsender hpasses (asks_of_callFor hfor) hmethod

theorem method_of_routeFor? {rs : List Route} {method : String} {route : Route}
    (h : routeFor? rs method = some route) :
    route.method = method ∨ method = "HEAD" ∧ route.method = "GET" := by
  have hwanted := List.find?_some h
  rw [beq_iff_eq] at hwanted
  by_cases hhead : method = "HEAD"
  · rw [if_pos hhead] at hwanted
    exact .inr ⟨hhead, hwanted⟩
  · rw [if_neg hhead] at hwanted
    exact .inl hwanted

theorem reaches_dispatch (c : Context) (r : Request) (w : World) :
    Reaches c r w (dispatch c r w).2 := by
  unfold dispatch
  by_cases hnone : (routesAt r.path).isEmpty = true
  · simp only [if_pos hnone]
    exact .untouched
  · simp only [if_neg hnone]
    cases hroute : routeFor? (routesAt r.path) r.method with
    | none => exact .untouched
    | some route =>
      cases route with
      | health => exact .untouched
      | desk e => exact reaches_serve (method_of_routeFor? hroute)

/-- Whatever a request is, it leads to one of the worlds. -/
theorem respond_reaches (c : Context) (origins : List String) (r : Request) (w : World) :
    Reaches c r w (respond c origins r w).2 := by
  unfold respond
  by_cases hoptions : r.method = "OPTIONS"
  · rw [if_pos hoptions]
    exact .untouched
  · rw [if_neg hoptions]
    exact reaches_dispatch c r w

end ShuttleDesk.Web
