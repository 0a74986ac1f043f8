/-
  ShuttleDesk/Proofs/Web/Privacy.lean
  ===================================
  What a rider can learn over the web: nothing but the rider's own.  Two worlds that
  agree on the rider's requests, on the shifts of the published ones, on the next id and
  on whether the rider is known answer every request of the rider alike, whatever its
  method, its path and its body, and also where the answer is an error.

  The gates turn a rider away from every endpoint of the operators before the world is
  looked at.  Of the three calls that are left, two find rows by their owner; the edit
  finds one by its id, but what belongs to somebody else is dropped before it is looked
  at, and so it answers like an id that does not exist.
-/
import ShuttleDesk.Proofs.Desk.RiderView
import ShuttleDesk.Proofs.Store.Alike
import ShuttleDesk.Proofs.Web.Admission

namespace ShuttleDesk

open Procedure Statement Operation

namespace Tables

/-- A row is found by its id among all rows and kept if it is the rider's, or found among the
rider's rows: it is the same. -/
theorem filter_request? {t : Tables} (hl : t.Lawful) (id rider : Int) :
    (t.request? id).filter (·.userId == rider) = (t.requestsOf rider).find? (·.id == id) := by
  have hnodup : (t.requests.map (·.id)).Nodup := nodup_of_ascending hl.requests
  have hnodup' : ((t.requestsOf rider).map (·.id)).Nodup :=
    (List.filter_sublist.map _).nodup hnodup
  apply Option.ext
  intro r
  rw [Option.filter_eq_some_iff, request?, find?_eq_some_iff_of_nodup hnodup,
    find?_eq_some_iff_of_nodup hnodup', requestsOf, List.mem_filter]
  constructor
  · rintro ⟨⟨hmem, hid⟩, howner⟩
    exact ⟨⟨hmem, howner⟩, hid⟩
  · rintro ⟨⟨hmem, howner⟩, hid⟩
    exact ⟨⟨hmem, hid⟩, howner⟩

end Tables

/-- The worlds agree on everything that a rider may learn. -/
structure AgreeFor (rider : Int) (w₁ w₂ : World) : Prop extends World.SameAround w₁ w₂ where
  nextRequest : w₁.issued.requests = w₂.issued.requests
  known : (w₁.tables.user? rider).isSome = (w₂.tables.user? rider).isSome
  requests : w₁.tables.requestsOf rider = w₂.tables.requestsOf rider
  shifts : ∀ r ∈ w₁.tables.requestsOf rider, r.status = .published →
    w₁.tables.summaryFor r.id = w₂.tables.summaryFor r.id

namespace Desk

variable {rider : Int} {w₁ w₂ : World}

/-! ### The calls of riders -/

theorem alike_inCalendar {α : Type} (x : Option α) : Alike w₁ w₂ (Operation.inCalendar x) := by
  cases x with
  | none => exact .overflow
  | some a => exact .pure a

theorem alike_createRequest (h : AgreeFor rider w₁ w₂) (input : RequestInput) :
    Alike w₁ w₂ (createRequest rider input) := by
  have hnone : (w₁.tables.user? rider).isNone = (w₂.tables.user? rider).isNone := by
    have hknown := h.known
    cases h₁ : w₁.tables.user? rider <;> cases h₂ : w₂.tables.user? rider <;> simp_all
  refine .look (Keeps.lift (Requests.keeps_countOf rider))
    (Alike.lift (Requests.alike_countOf h.toSameAround h.requests)) fun n _ => ?_
  refine .ite (.fail _) (.look (Keeps.ofExcept _) (.ofExcept _) fun _ _ => ?_)
  refine .look (keeps_accepted _) (.ofExcept _) fun date _ => ?_
  refine .look (keeps_accepted _) (.ofExcept _) fun arrival _ => ?_
  refine .look (keeps_inCalendar _) (alike_inCalendar _) fun values _ => ?_
  exact Alike.lift (Requests.alike_insert h.toSameAround values h.nextRequest hnone)

theorem riderViews_eq (h : AgreeFor rider w₁ w₂) :
    riderViews w₁.tables rider = riderViews w₂.tables rider := by
  unfold riderViews
  rw [← h.requests]
  apply List.map_congr_left
  intro r hr
  unfold riderView
  by_cases hpublished : r.status = .published
  · rw [if_pos hpublished, if_pos hpublished, h.shifts r hr hpublished]
  · rw [if_neg hpublished, if_neg hpublished]

theorem listRequests_run_of_closed {w : World} (hclosed : ¬ w.isOpen = true) (rider : Int) :
    listRequests rider w = (.error (.error (.ofStorage .poolClosed)), w) := by
  rw [listRequests_eq, bind_run, lift_eq_mapError, mapError_run, Requests.listOf, bind_run,
    query_run_of_closed hclosed]

theorem alike_listRequests (hl₁ : w₁.tables.Lawful) (hl₂ : w₂.tables.Lawful)
    (h : AgreeFor rider w₁ w₂) : Alike w₁ w₂ (listRequests rider) := by
  unfold Alike
  by_cases ho : w₂.isOpen = true
  · rw [listRequests_run hl₁ (h.isOpen.trans ho), listRequests_run hl₂ ho, riderViews_eq h]
  · have ho₁ : ¬ w₁.isOpen = true := by
      rw [h.isOpen]
      exact ho
    rw [listRequests_run_of_closed ho₁, listRequests_run_of_closed ho]

theorem alike_editRequest (hl₁ : w₁.tables.Lawful) (hl₂ : w₂.tables.Lawful)
    (h : AgreeFor rider w₁ w₂) (timeout request : Int) (edit : RequestEdit) :
    Alike w₁ w₂ (editRequest timeout rider request edit) := by
  have haround := h.toSameAround
  have hown : (w₁.tables.request? request).filter (·.userId == rider)
      = (w₂.tables.request? request).filter (·.userId == rider) := by
    rw [Tables.filter_request? hl₁, Tables.filter_request? hl₂, h.requests]
  apply Alike.transaction
  refine .look (Keeps.lift (keeps_setLockTimeout _)) (Alike.lift (alike_setLockTimeout haround _))
    fun _ _ => ?_
  refine .look (Keeps.lift (Requests.keeps_lockOwned _ _))
    (Alike.lift (Requests.alike_lockOwned haround hown)) fun found hfound => ?_
  refine .look (Keeps.orFail _ _) (.orFail _ _) fun r hr => ?_
  refine .ite (.fail _) (.look (Keeps.ofExcept _) (.ofExcept _) fun _ _ => ?_)
  refine .look (keeps_accepted _) (.ofExcept _) fun change _ => ?_
  refine .look (keeps_inCalendar _) (alike_inCalendar _) fun after hafter => ?_
  -- the row that is saved is the rider's own, in both worlds
  obtain ⟨-, -, hfound, -⟩ := Requests.lockOwned_ok_iff.1 (lift_ok_iff.1 hfound)
  obtain ⟨rfl, -⟩ := orFail_ok_iff.1 hr
  obtain ⟨hafter, -⟩ := inCalendar_ok_iff.1 hafter
  obtain ⟨hr₁, -⟩ := Option.filter_eq_some_iff.1 hfound
  obtain ⟨hr₂, -⟩ := Option.filter_eq_some_iff.1 (hown.symm.trans hfound)
  have hid : after.id = request := (RequestChange.after?_id hafter).trans (Tables.mem_of_request? hr₁).2
  apply Alike.lift
  apply Requests.alike_saveDetails haround
  · rw [hid, hr₁, hr₂]
  · rw [hid, Tables.filter_id_eq hl₁ hr₁, Tables.filter_id_eq hl₂ hr₂]

/-- The calls that a rider may make. -/
inductive Call.IsOf (rider : Int) : Call → Prop where
  | createRequest (input : RequestInput) : IsOf rider (.createRequest rider input)
  | listRequests : IsOf rider (.listRequests rider)
  | editRequest (request : Int) (edit : RequestEdit) : IsOf rider (.editRequest rider request edit)

theorem alike_perform (hl₁ : w₁.tables.Lawful) (hl₂ : w₂.tables.Lawful) (h : AgreeFor rider w₁ w₂)
    (timeout : Int) {c : Call} (hc : c.IsOf rider) : Alike w₁ w₂ (c.perform timeout) := by
  cases hc with
  | createRequest input => exact Alike.map _ (alike_createRequest h input)
  | listRequests => exact Alike.map _ (alike_listRequests hl₁ hl₂ h)
  | editRequest request edit => exact Alike.map _ (alike_editRequest hl₁ hl₂ h timeout request edit)

end Desk

/-! ### The requests of riders -/

namespace Web

open Desk

variable {c : Context} {r : Request} {rider : Int} {w₁ w₂ : World}

theorem Asks.isOf {b : Bearer} {e : Endpoint} {call : Call} (h : Asks b e call)
    (hgate : e.gate = .student) : call.IsOf b.userId := by
  cases h with
  | createRequest input => exact .createRequest input
  | listRequests => exact .listRequests
  | editRequest segment request edit => exact .editRequest request edit
  | _ => cases hgate

/-- Whatever a rider may call is a call of that rider. -/
theorem isOf_of_admittedCall {e : Endpoint} {call : Call}
    (hsender : bearerOf c.identity r = .ok ⟨rider, Role.student.name⟩)
    (h : admittedCall c e r = .ok call) : call.IsOf rider := by
  obtain ⟨b, hb, hpasses, hfor⟩ := admittedCall_ok_iff.1 h
  cases hb.symm.trans hsender
  exact (asks_of_callFor hfor).isOf (passes_student_iff.1 hpasses)

theorem serve_eq (hsender : bearerOf c.identity r = .ok ⟨rider, Role.student.name⟩)
    (hl₁ : w₁.tables.Lawful) (hl₂ : w₂.tables.Lawful) (h : AgreeFor rider w₁ w₂) (e : Endpoint) :
    (serve c e r w₁).1 = (serve c e r w₂).1 := by
  unfold serve
  cases hcall : admittedCall c e r with
  | error x => rfl
  | ok call =>
    have halike := alike_perform hl₁ hl₂ h c.lockTimeout (isOf_of_admittedCall hsender hcall)
    exact congrArg (responseOf e) halike

theorem answer_eq (hsender : bearerOf c.identity r = .ok ⟨rider, Role.student.name⟩)
    (hl₁ : w₁.tables.Lawful) (hl₂ : w₂.tables.Lawful) (h : AgreeFor rider w₁ w₂) (route : Route) :
    (answer c r w₁ route).1 = (answer c r w₂ route).1 := by
  cases route with
  | health => simp only [answer, h.isOpen]
  | desk e => exact serve_eq hsender hl₁ hl₂ h e

/-- A rider is answered the same, whatever there is besides the rider's own. -/
theorem respond_eq_of_agreeFor (c : Context) (origins : List String) (r : Request) (rider : Int)
    (w₁ w₂ : World) (hsender : bearerOf c.identity r = .ok ⟨rider, Role.student.name⟩)
    (hl₁ : w₁.tables.Lawful) (hl₂ : w₂.tables.Lawful) (h : AgreeFor rider w₁ w₂) :
    (respond c origins r w₁).1 = (respond c origins r w₂).1 := by
  have hanswer := answer_eq hsender hl₁ hl₂ h
  unfold respond
  by_cases hoptions : r.method = "OPTIONS"
  · rw [if_pos hoptions, if_pos hoptions]
  · rw [if_neg hoptions, if_neg hoptions]
    have hdispatch : (dispatch c r w₁).1 = (dispatch c r w₂).1 := by
      unfold dispatch
      by_cases hnone : (routesAt r.path).isEmpty = true
      · simp only [if_pos hnone]
      · simp only [if_neg hnone]
        cases routeFor? (routesAt r.path) r.method with
        | none => rfl
        | some route => simp only [hanswer route]
    simp only [hdispatch]

/-- Tokens are signed with a short secret, and the clock stands at zero. -/
def smallContext : Context := ⟨⟨Utf8.ofString "k", 0⟩, 2000⟩

/-- An edit of the first request, sent with the token of the second user. -/
def foreignEdit : Request where
  method := "PUT"
  target := "/api/v1/student/requests/1"
  headers :=
    let token := Token.issue smallContext.identity.secret (Token.claimsFor 2 "student" 0 60 "t")
    [("content-type", "application/json"),
      ("authorization", "Bearer " ++ String.ofList (token.map fun b => Char.ofNat b.toNat))]
  body := Utf8.ofString "\x7b\x7d"

/-- The first request is another rider's, or there is none: who must not see it cannot tell. -/
theorem respond_eq_for_foreign_and_missing :
    let foreign := worldAfter 0 publication smallDesk
    let missing := { smallDesk with issued := foreign.issued }
    foreign.tables.requests.map (fun q => (q.id, q.userId)) = [(1, 1)] ∧
    missing.tables.requests = [] ∧
    (respond smallContext [] foreignEdit foreign).1
      = (respond smallContext [] foreignEdit missing).1 := by
  intro foreign missing
  have hsender : bearerOf smallContext.identity foreignEdit = .ok ⟨2, Role.student.name⟩ := by
    decide +kernel
  have hforeign : foreign.tables.Lawful :=
    (sound_worldAfter 0 publication isFresh_smallDesk.sound).lawful
  have hnone : foreign.tables.requestsOf 2 = [] := by decide +kernel
  have hagree : AgreeFor 2 foreign missing := {
    now := by decide +kernel
    isOpen := by decide +kernel
    heldRequests := by decide +kernel
    nextRequest := rfl
    known := by decide +kernel
    requests := hnone
    shifts := by simp [hnone] }
  exact ⟨by decide +kernel, rfl, respond_eq_of_agreeFor smallContext [] foreignEdit 2 foreign missing
    hsender hforeign isFresh_smallDesk.sound.lawful hagree⟩

end Web

end ShuttleDesk
