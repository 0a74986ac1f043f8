/-
  ShuttleDesk/Proofs/Web/ErrorBodies.lean
  =======================================
  What an error looks like.  A request to an endpoint of the desk is refused at the gate,
  stopped by an id that cannot be read, by its body or by the desk, or it is answered.
  Every answer that is an error is an object with a message and a code, but for two: an id
  that cannot be read is answered with a plain text, and so is a time past the calendar.
-/
import Mathlib.Tactic.SplitIfs
import ShuttleDesk.Proofs.Web.Denial

namespace ShuttleDesk.Web

open Desk

variable {c : Context} {origins : List String} {r : Request} {e : Endpoint} {w : World}

/-! ### Ids -/

/-- The segment of the path that an endpoint reads its id from. -/
def Endpoint.segment? : Endpoint → Option Segment
  | .editRequest id | .updateDriver id | .setStaff id | .unsetStaff id | .updateShift id
  | .assignStudent id | .removeStudent id | .assignStaff id | .removeStaff id
  | .publishShift id => some id
  | _ => none

theorem pathId_error_iff {segment : Segment} {x : Exit} :
    pathId segment = .error x ↔ ∃ text, readId segment = .error text ∧ x = .badPath text := by
  unfold pathId
  cases readId segment <;> simp [Except.mapError, eq_comm]

theorem content_ne_badPath {α : Type} {read : Bytes → Except Json.Misread α} {text : String} :
    content read r ≠ .error (.badPath text) := by
  unfold content
  cases readBody read r <;> simp [Except.mapError]

theorem departure_ne_badPath {raw text : String} : departure raw ≠ .error (.badPath text) := by
  unfold departure
  cases readDateTime "departure_time" raw <;> simp [Except.mapError]

theorem mapM_departure_ne_badPath {raw : Option String} {text : String} :
    raw.mapM departure ≠ .error (.badPath text) := by
  cases raw with
  | none => nofun
  | some raw =>
    simp only [Option.mapM_some, Functor.map, ne_eq, Except.map]
    cases h : departure raw with
    | error x =>
      simp only [Except.error.injEq]
      rintro rfl
      exact departure_ne_badPath h
    | ok t => simp

/-- Nothing else is answered as an id that cannot be read. -/
theorem callFor_badPath_iff {b : Bearer} {text : String} :
    callFor b r e = .error (.badPath text) ↔
      ∃ segment, e.segment? = some segment ∧ readId segment = .error text := by
  cases e <;>
    simp [callFor, Endpoint.segment?, except_bind_error_iff, pathId_error_iff, content_ne_badPath,
      departure_ne_badPath, mapM_departure_ne_badPath, pure, Except.pure]

/-- The sender has passed the gate, but the id in the path cannot be read, as the text says. -/
def IsMisaddressed (i : Identity) (r : Request) (e : Endpoint) (text : String) : Prop :=
  (∃ b, allowedSender i e.gate r = .ok b) ∧
    ∃ segment, e.segment? = some segment ∧ readId segment = .error text

theorem admittedCall_badPath_iff {text : String} :
    admittedCall c e r = .error (.badPath text) ↔ IsMisaddressed c.identity r e text := by
  unfold admittedCall IsMisaddressed
  cases allowedSender c.identity e.gate r with
  | error refusal => simp
  | ok b => simp [callFor_badPath_iff]

theorem admittedCall_of_refused {refusal : Refusal}
    (h : allowedSender c.identity e.gate r = .error refusal) :
    admittedCall c e r = .error (.refused refusal) := by
  simp only [admittedCall, h]

/-- What the request asks for comes to a time past the calendar. -/
def BreaksDown (c : Context) (r : Request) (e : Endpoint) (w : World) : Prop :=
  ∃ call, admittedCall c e r = .ok call ∧ (call.perform c.lockTimeout w).1 = .error .timeOverflow

/-! ### Ways out -/

/-- The ways in which a request to an endpoint is answered. -/
inductive Served (c : Context) (r : Request) (e : Endpoint) (w : World) : Response → Prop where
  | done (a : Answer) : Served c r e w (success e a)
  | told (f : Failure) (addressed : ∀ text, ¬ IsMisaddressed c.identity r e text)
      (performed : ¬ BreaksDown c r e w) : Served c r e w f.response
  | misaddressed (text : String) (h : IsMisaddressed c.identity r e text) :
      Served c r e w (.ofText 400 text)
  | brokenDown (h : BreaksDown c r e w) : Served c r e w (.ofText 500 "Service panicked")

theorem served (c : Context) (r : Request) (e : Endpoint) (w : World) :
    Served c r e w (serve c e r w).1 := by
  unfold serve
  cases hcall : admittedCall c e r with
  | error x =>
    have hperformed : ¬ BreaksDown c r e w := by
      rintro ⟨call, h, -⟩
      cases hcall.symm.trans h
    cases x with
    | badPath text => exact .misaddressed text (admittedCall_badPath_iff.1 hcall)
    | refused refusal =>
      exact .told _ (fun _ h => nomatch hcall.symm.trans (admittedCall_badPath_iff.2 h)) hperformed
    | failed f =>
      exact .told _ (fun _ h => nomatch hcall.symm.trans (admittedCall_badPath_iff.2 h)) hperformed
  | ok call =>
    have haddressed : ∀ text, ¬ IsMisaddressed c.identity r e text := fun _ h =>
      nomatch hcall.symm.trans (admittedCall_badPath_iff.2 h)
    obtain ⟨result, w', hrun⟩ : ∃ result w', call.perform c.lockTimeout w = (result, w') :=
      ⟨_, _, rfl⟩
    simp only [hrun]
    match result, hrun with
    | .ok a, _ => exact .done a
    | .error .timeOverflow, hrun =>
      exact .brokenDown ⟨call, hcall, congrArg Prod.fst hrun⟩
    | .error (.error f), hrun =>
      refine .told _ haddressed ?_
      rintro ⟨call', hcall', hstop⟩
      cases hcall.symm.trans hcall'
      cases (congrArg Prod.fst hrun).symm.trans hstop

theorem success_status_lt (e : Endpoint) (a : Answer) : (success e a).status < 400 := by
  have hstatus : successStatus e < 400 := by cases e <;> simp [successStatus]
  simp only [success]
  split_ifs <;> exact hstatus

theorem serve_of_isMisaddressed {text : String} (h : IsMisaddressed c.identity r e text) :
    (serve c e r w).1 = .ofText 400 text := by
  simp only [serve, admittedCall_badPath_iff.2 h]
  rfl

theorem serve_of_breaksDown (h : BreaksDown c r e w) :
    (serve c e r w).1 = .ofText 500 "Service panicked" := by
  obtain ⟨call, hcall, hstop⟩ := h
  simp only [serve, hcall, hstop]
  rfl

/-! ### Responses -/

/-- The body is an object of a message and a code, two texts. -/
def Body.IsError (b : Body) : Prop :=
  ∃ message code, b = .value (.object [("error", .string message), ("code", .string code)])

/-- No endpoint that `HEAD` leads to has an id. -/
theorem IsMisaddressed.method_ne {text : String} (h : IsMisaddressed c.identity r e text)
    (hgoes : GoesTo r e) : r.method ≠ "HEAD" := by
  obtain ⟨-, segment, hsegment, -⟩ := h
  have hmethod : e.method = "POST" ∨ e.method = "PUT" := by
    cases e <;> simp_all [Endpoint.segment?, Endpoint.method]
  have hroute : e.method = r.method ∨ r.method = "HEAD" ∧ e.method = "GET" :=
    method_of_routeFor? hgoes
  intro hhead
  rcases hmethod with hmethod | hmethod <;> simp [hmethod, hhead] at hroute

theorem respond_of_isMisaddressed (origins : List String) (w : World) {text : String}
    (h : GoesTo r e) (hid : IsMisaddressed c.identity r e text) :
    (respond c origins r w).1.status = 400 ∧ (respond c origins r w).1.body = .text text := by
  obtain ⟨hstatus, hbody⟩ := status_and_body_respond c origins w h
  rw [hstatus, hbody, if_neg (hid.method_ne h), serve_of_isMisaddressed hid]
  exact ⟨rfl, rfl⟩

/-- An error is an object of a message and a code, unless the id in the path cannot be read or the
desk comes to a time past the calendar; the body of an answer to `HEAD` is left out. -/
theorem error_body_iff (c : Context) (origins : List String) (r : Request) (e : Endpoint)
    (w : World) (h : GoesTo r e) :
    let response := (respond c origins r w).1
    (400 ≤ response.status → (response.body.IsError ↔ r.method ≠ "HEAD" ∧
      (∀ text, ¬ IsMisaddressed c.identity r e text) ∧ ¬ BreaksDown c r e w)) ∧
    (∀ text, IsMisaddressed c.identity r e text →
      response.status = 400 ∧ response.body = .text text) ∧
    (BreaksDown c r e w → response.status = 500 ∧
      (r.method ≠ "HEAD" → response.body = .text "Service panicked")) ∧
    (r.method = "HEAD" → response.body = .empty) := by
  intro response
  obtain ⟨hstatus, hbody⟩ : response.status = _ ∧ response.body = _ := status_and_body_respond c origins w h
  refine ⟨?_, ?_, ?_, fun hhead => hbody.trans (if_pos hhead)⟩
  · intro herror
    by_cases hhead : r.method = "HEAD"
    · rw [hbody, if_pos hhead]
      exact iff_of_false nofun fun h => h.1 hhead
    rw [hbody, if_neg hhead]
    rw [hstatus] at herror
    have hserved := served c r e w
    generalize (serve c e r w).1 = served at hserved herror
    cases hserved with
    | done a => exact absurd (success_status_lt e a) (Nat.not_lt.2 herror)
    | told f addressed performed => exact iff_of_true ⟨_, _, rfl⟩ ⟨hhead, addressed, performed⟩
    | misaddressed text hid => exact iff_of_false nofun fun h => h.2.1 text hid
    | brokenDown hstop => exact iff_of_false nofun fun h => h.2.2 hstop
  · exact fun text hid => respond_of_isMisaddressed origins w h hid
  · intro hstop
    refine ⟨?_, fun hhead => ?_⟩
    · rw [hstatus, serve_of_breaksDown hstop]
      rfl
    · rw [hbody, if_neg hhead, serve_of_breaksDown hstop]
      rfl

theorem bearerOf_sentBy_staff (method target : String) :
    bearerOf smallContext.identity (sentBy 2 .staff method target) = .ok ⟨2, Role.staff.name⟩ := by
  have hheaders : (sentBy 2 .staff method target).headers = staffPublication.headers := by
    simp only [staffPublication, sentBy]
  exact (bearerOf_congr hheaders).trans bearerOf_staffPublication

theorem allowedSender_of_not_passes {i : Identity} {b : Bearer} {required : Role}
    (h : bearerOf i r = .ok b) (hpasses : ¬ Role.passes b.role required.name = true) :
    allowedSender i required r = .error (.forbidden (required.name ++ " role required")) := by
  simp only [allowedSender, h, if_neg hpasses]

/-- Staff may not make staff, so the id of the user is never read. -/
theorem error_body_of_forbidden :
    let promotion := sentBy 2 .staff "POST" "/api/v1/admin/users/one/set-staff"
    let response := (respond smallContext [] promotion smallDesk).1
    GoesTo promotion (.setStaff "one".toList) ∧ response.status = 403 ∧
      response.body.IsError := by
  intro promotion response
  have hgoes : GoesTo promotion (.setStaff "one".toList) := by
    unfold GoesTo
    decide +kernel
  have hsender : allowedSender smallContext.identity (Endpoint.setStaff "one".toList).gate promotion
      = .error (.forbidden (Role.admin.name ++ " role required")) :=
    allowedSender_of_not_passes (bearerOf_sentBy_staff _ _) (by decide)
  have hstatus : response.status = 403 := by
    simp only [response, respond_of_refused hgoes hsender]
    rfl
  have herror : 400 ≤ response.status := by
    rw [hstatus]
    decide
  obtain ⟨hbody, -, -, -⟩ :=
    error_body_iff smallContext [] promotion (.setStaff "one".toList) smallDesk hgoes
  refine ⟨hgoes, hstatus, (hbody herror).2 ⟨by decide, ?_, ?_⟩⟩
  · rintro text ⟨⟨b, hb⟩, -⟩
    cases hb.symm.trans hsender
  · rintro ⟨call, hcall, -⟩
    cases hcall.symm.trans (admittedCall_of_refused hsender)

/-- A member of staff writes out the number of a shift. -/
def spelledPublication : Request := sentBy 2 .staff "POST" "/api/v1/admin/shifts/one/publish"

theorem isMisaddressed_spelledPublication :
    IsMisaddressed smallContext.identity spelledPublication (.publishShift "one".toList)
      ("Invalid URL: Cannot parse " ++ Json.ticked "one" ++ " to a " ++ Json.ticked "i64") := by
  have hread : readId "one".toList = .error
      ("Invalid URL: Cannot parse " ++ Json.ticked "one" ++ " to a " ++ Json.ticked "i64") := by
    decide +kernel
  exact ⟨⟨_, allowedSender_ok_iff.2 ⟨bearerOf_sentBy_staff _ _, by decide⟩⟩, _, rfl, hread⟩

/-- Staff may publish, and of an id that cannot be read they are told in a plain text. -/
theorem misaddressed_body_is_text :
    GoesTo spelledPublication (.publishShift "one".toList) ∧
    (respond smallContext [] spelledPublication smallDesk).1.status = 400 ∧
    (respond smallContext [] spelledPublication smallDesk).1.body = .text
      ("Invalid URL: Cannot parse " ++ Json.ticked "one" ++ " to a " ++ Json.ticked "i64") ∧
    ¬ (respond smallContext [] spelledPublication smallDesk).1.body.IsError := by
  have hgoes : GoesTo spelledPublication (.publishShift "one".toList) := by
    unfold GoesTo
    decide +kernel
  obtain ⟨hstatus, hbody⟩ := respond_of_isMisaddressed [] smallDesk hgoes
    isMisaddressed_spelledPublication
  refine ⟨hgoes, hstatus, hbody, ?_⟩
  rw [hbody]
  nofun

end ShuttleDesk.Web
