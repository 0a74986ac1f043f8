/-
  ShuttleDesk/Proofs/Web/StrayBinding.lean
  ========================================
  A pending request with a bridge row.  The desk never leaves one behind, but a row may
  be written behind its back, and then the constraints of the bridge table are all that
  keeps the request from being bound once more.

  Two constraints can speak.  A row for another shift repeats the request and breaks the
  constraint on requests, which is told to the caller as his mistake.  A row for the
  same shift repeats the whole pair and breaks the primary key as well, which is looked
  at first; that constraint is not known as one that means a bound request, and what is
  answered is an internal error.  Either way nothing is written.
-/
import ShuttleDesk.Proofs.Desk.BindingOutcome
import ShuttleDesk.Proofs.Web.Denial

namespace ShuttleDesk

open Procedure Statement

variable {w : World} {shift request : Int}

/-! ### The two constraints -/

namespace Bindings

theorem insert_run_of_same (ho : w.isOpen = true)
    (hbound : w.tables.isBound shift request = true) :
    insert shift request w = (.error (.error (.duplicate pairConstraint)), w) := by
  have hopen : ensureOpen w = (.ok (), w) := ensureOpen_ok_iff.2 ⟨ho, rfl⟩
  simp only [insert, bind_run, hopen, world_run, if_pos hbound, fail_run]

theorem insert_run_of_other (ho : w.isOpen = true)
    (hfree : ¬ w.tables.isBound shift request = true)
    (hbound : w.tables.bindingsOf request ≠ []) :
    insert shift request w = (.error (.error (.duplicate requestConstraint)), w) := by
  have hopen : ensureOpen w = (.ok (), w) := ensureOpen_ok_iff.2 ⟨ho, rfl⟩
  have hlength : (w.tables.bindingsOf request).length ≠ 0 := by
    rw [ne_eq, List.length_eq_zero_iff]
    exact hbound
  simp only [insert, bind_run, hopen, world_run, if_neg hfree, if_pos hlength, fail_run]

end Bindings

/-! ### Binding once more -/

namespace Desk

open Tables

variable {wait bound : Int} {row : Request}

/-- Nothing is in the way of a pending request but the constraints of the bridge table. -/
theorem assign_run_of_insert_error {s : Shift} {e : StorageError} (h : w.IsCalm)
    (hwait : wait ≤ greatestLockTimeout) (hl : w.tables.Lawful)
    (hs : w.tables.shift? shift = some s) (hr : w.tables.request? request = some row)
    (hreadable : row.isReadable = true) (hpending : row.status = .pending)
    (hinsert : Bindings.insert shift request w = (.error (.error e), w)) :
    assign wait shift request w = (.error (.error (bindError request e)), w) := by
  obtain ⟨locked, hlocked⟩ := Shifts.lockedOf_of_shift? hl hs
  have hshift := lockWithCapacity_run h shift
  rw [hlocked] at hshift
  have hrequest := lockRequest_run_eq h request
  rw [hr, Option.all_some, if_pos hreadable] at hrequest
  have hload : (liftM (Shifts.load shift) : Operation Load) w = (.ok (w.tables.load shift), w) :=
    lift_ok_iff.2 (query_run h.isOpen)
  refine locking_run_of_error h hwait ?_
  simp only [bind_run, hshift, hrequest, orFail_some, pure_run, hpending, ne_eq, not_true_eq_false,
    if_false, hload, mapError_run, hinsert]

theorem assign_run_of_unreadable {s : Shift} (h : w.IsCalm) (hwait : wait ≤ greatestLockTimeout)
    (hl : w.tables.Lawful) (hs : w.tables.shift? shift = some s)
    (hr : w.tables.request? request = some row) (hreadable : row.isReadable = false) :
    assign wait shift request w = (.error .timeOverflow, w) := by
  obtain ⟨locked, hlocked⟩ := Shifts.lockedOf_of_shift? hl hs
  have hshift := lockWithCapacity_run h shift
  rw [hlocked] at hshift
  have hrequest := lockRequest_run_eq h request
  rw [hr, Option.all_some, if_neg (Bool.eq_false_iff.1 hreadable)] at hrequest
  refine locking_run_of_error h hwait ?_
  simp only [bind_run, hshift, hrequest, orFail_some, pure_run]

/-- What a pending request with a bridge row stops with when it is to be bound to a shift. -/
def strayStop (row : Request) (shift bound : Int) : Stop DeskError :=
  if row.isReadable then
    if shift = bound then .error (.database (.duplicate Bindings.pairConstraint))
    else .error (.requestAlreadyBound row.id)
  else .timeOverflow

theorem assign_run_of_stray (h : w.IsCalm) (hwait : wait ≤ greatestLockTimeout)
    (hl : w.tables.Lawful) (hs : (w.tables.shift? shift).isSome = true)
    (hr : w.tables.request? request = some row) (hpending : row.status = .pending)
    (hbound : w.tables.isBound bound request = true) :
    assign wait shift request w = (.error (strayStop row shift bound), w) := by
  obtain ⟨s, hs⟩ := Option.isSome_iff_exists.1 hs
  cases hreadable : row.isReadable with
  | false =>
    simp only [strayStop, hreadable, Bool.false_eq_true, if_false]
    exact assign_run_of_unreadable h hwait hl hs hr hreadable
  | true =>
    rcases eq_or_ne shift bound with rfl | hne
    · have hinsert := Bindings.insert_run_of_same h.isOpen hbound
      rw [assign_run_of_insert_error h hwait hl hs hr hreadable hpending hinsert]
      simp only [strayStop, hreadable, if_true]
      rfl
    · have hfree : ¬ w.tables.isBound shift request = true := by
        intro hshift
        exact hne (hl.shift_unique hshift hbound)
      have hsome : w.tables.bindingsOf request ≠ [] := by
        rw [ne_eq, bindingsOf_eq_nil_iff, not_not]
        exact mem_boundIds_of_isBound hbound
      have hinsert := Bindings.insert_run_of_other h.isOpen hfree hsome
      rw [assign_run_of_insert_error h hwait hl hs hr hreadable hpending hinsert]
      simp only [strayStop, hreadable, if_true, if_neg hne, (mem_of_request? hr).2]
      rfl

end Desk

namespace Web

open Desk

variable {c : Context} {origins : List String} {r : Request} {e : Endpoint}

/-! ### The answer -/

/-- What the call of an admitted request comes to is what is answered. -/
theorem respond_of_admitted {call : Call} {stop : Stop DeskError} {w' : World} (h : GoesTo r e)
    (hcall : admittedCall c e r = .ok call)
    (hrun : call.perform c.lockTimeout w = (.error stop, w')) :
    respond c origins r w =
      ((if r.method = "HEAD" then (responseOf e (.error stop)).withoutBody
          else responseOf e (.error stop)).withHeaders (echoed r ++ Cors.headers origins r), w') := by
  have hserve : serve c e r w = (responseOf e (.error stop), w') := by
    simp only [serve, hcall, hrun]
  rw [respond_of_goesTo h, hserve]

theorem tells_of_admitted {call : Call} {f : DeskError} {w' : World} (h : GoesTo r e)
    (hcall : admittedCall c e r = .ok call)
    (hrun : call.perform c.lockTimeout w = (.error (.error f), w')) :
    Tells r (respond c origins r w).1 (Failure.ofDesk f) := by
  have hserve : (serve c e r w).1 = (Failure.ofDesk f).response := by
    simp only [serve, hcall, hrun]
    rfl
  obtain ⟨hstatus, hbody⟩ := status_and_body_respond c origins w h
  rw [hserve] at hstatus hbody
  exact ⟨hstatus, hbody⟩

/-- A pending request with a bridge row is never bound once more, whatever shift it is to be bound
to, and nothing is written.  If its row is for another shift the caller is told that it is bound
already.  If its row is for the same shift the answer is an internal error; and if the times of the
request lie past the calendar the call stops. -/
theorem stray_binding_not_repeated (wait shift request bound : Int) (w : World)
    (row : ShuttleDesk.Request) (h : w.IsCalm) (hwait : wait ≤ Statement.greatestLockTimeout)
    (hl : w.tables.Lawful) (hs : (w.tables.shift? shift).isSome = true)
    (hr : w.tables.request? request = some row) (hpending : row.status = .pending)
    (hbound : w.tables.isBound bound request = true) :
    let caught := DeskError.requestAlreadyBound request
    (row.isReadable = true → shift ≠ bound →
      assign wait shift request w = (.error (.error caught), w)) ∧
    caught.isCallerError = true ∧
    (row.isReadable = true → shift = bound → assign wait shift request w =
      (.error (.error (.database (.duplicate Bindings.pairConstraint))), w)) ∧
    (row.isReadable = false → assign wait shift request w = (.error .timeOverflow, w)) ∧
    -- over the web
    ∀ (c : Context) (origins : List String) (r : Request) (e : Endpoint), c.lockTimeout = wait →
      GoesTo r e → admittedCall c e r = .ok (.assign shift request) →
      (respond c origins r w).2 = w ∧
      (row.isReadable = true → shift ≠ bound → Tells r (respond c origins r w).1
        ⟨400, "REQUEST_ALREADY_BOUND",
          "Request " ++ Numeral.text request ++ " is already bound to a shift"⟩) ∧
      (row.isReadable = true → shift = bound →
        Tells r (respond c origins r w).1 ⟨500, "INTERNAL_ERROR", "An internal error occurred"⟩) ∧
      (row.isReadable = false → (respond c origins r w).1.status = 500) := by
  intro caught
  have hrun := assign_run_of_stray h hwait hl hs hr hpending hbound
  have hid : row.id = request := (Tables.mem_of_request? hr).2
  have hother : row.isReadable = true → shift ≠ bound →
      strayStop row shift bound = .error caught := by
    intro hreadable hne
    rw [strayStop, if_pos hreadable, if_neg hne, hid]
  have hsame : row.isReadable = true → shift = bound →
      strayStop row shift bound = .error (.database (.duplicate Bindings.pairConstraint)) := by
    intro hreadable heq
    rw [strayStop, if_pos hreadable, if_pos heq]
  have hunreadable : row.isReadable = false → strayStop row shift bound = .timeOverflow := by
    intro hreadable
    rw [strayStop, if_neg (Bool.eq_false_iff.1 hreadable)]
  refine ⟨?_, rfl, ?_, ?_, ?_⟩
  · intro hreadable hne
    rw [hrun, hother hreadable hne]
  · intro hreadable heq
    rw [hrun, hsame hreadable heq]
  · intro hreadable
    rw [hrun, hunreadable hreadable]
  · intro c origins r e hc hgoes hcall
    have hperform : (Call.assign shift request).perform c.lockTimeout w
        = (.error (strayStop row shift bound), w) := by
      rw [Call.perform, Procedure.map_run, hc, hrun]
    refine ⟨by rw [respond_of_admitted hgoes hcall hperform], ?_, ?_, ?_⟩
    · intro hreadable hne
      rw [hother hreadable hne] at hperform
      exact tells_of_admitted hgoes hcall hperform
    · intro hreadable heq
      rw [hsame hreadable heq] at hperform
      exact tells_of_admitted hgoes hcall hperform
    · intro hreadable
      rw [hunreadable hreadable] at hperform
      rw [respond_of_admitted hgoes hcall hperform]
      split <;> rfl

/-- The small desk with one pending request, and a bridge row of it that nobody has asked for. -/
def strayDesk : World :=
  let w := worldAfter 0 [.undisturbed smallRequest] smallDesk
  w.withTables (w.tables.bind 1 1)

theorem lawful_strayDesk : strayDesk.tables.Lawful := by
  have hsound := sound_worldAfter 0 [.undisturbed smallRequest] isFresh_smallDesk.sound
  exact hsound.lawful.bind (by decide +kernel) (by decide +kernel) (by decide +kernel)

theorem isCalm_strayDesk : strayDesk.IsCalm := by constructor <;> decide +kernel

/-- The member of staff who publishes a shift asks that the first request be bound to the second. -/
def assignment : Request where
  method := "POST"
  target := "/api/v1/admin/shifts/2/assign-student"
  headers := staffPublication.headers ++ [("content-type", "application/json")]
  body := Utf8.ofString "\x7b\"request_id\":1\x7d"

theorem admittedCall_assignment :
    admittedCall smallContext (.assignStudent ['2']) assignment = .ok (.assign 2 1) := by
  have htoken : assignment.header? "authorization" = staffPublication.header? "authorization" := rfl
  have hid : pathId ['2'] = .ok 2 := by decide +kernel
  have hbody : content BoundId.readRequest assignment = .ok 1 := by decide +kernel
  refine admittedCall_ok_iff.2
    ⟨_, (bearerOf_of_header? htoken).trans bearerOf_staffPublication, by decide, ?_⟩
  simp only [callFor, hid, hbody]
  rfl

/-- The request cannot be bound to the second shift, and the member of staff is told why. -/
theorem stray_binding_not_repeated_on_other_shift :
    (∃ row, strayDesk.tables.request? 1 = some row ∧ row.status = .pending) ∧
    strayDesk.tables.isBound 1 1 = true ∧
    assign 2000 2 1 strayDesk = (.error (.error (.requestAlreadyBound 1)), strayDesk) ∧
    Tells assignment (respond smallContext [] assignment strayDesk).1
      ⟨400, "REQUEST_ALREADY_BOUND", "Request 1 is already bound to a shift"⟩ := by
  have hsome : (strayDesk.tables.request? 1).isSome = true := by decide +kernel
  obtain ⟨row, hr⟩ := Option.isSome_iff_exists.1 hsome
  have hreadable : (strayDesk.tables.request? 1).all Request.isReadable = true := by decide +kernel
  have hpending : (strayDesk.tables.request? 1).all (·.status == .pending) = true := by
    decide +kernel
  rw [hr, Option.all_some] at hreadable hpending
  have hpending := beq_iff_eq.1 hpending
  have hgoes : GoesTo assignment (.assignStudent ['2']) := by
    unfold GoesTo
    decide +kernel
  have hbound : strayDesk.tables.isBound 1 1 = true := by decide +kernel
  obtain ⟨hcaught, -, -, -, hweb⟩ := stray_binding_not_repeated 2000 2 1 1 strayDesk row
    isCalm_strayDesk (by decide) lawful_strayDesk (by decide +kernel) hr hpending hbound
  obtain ⟨-, htold, -, -⟩ := hweb smallContext [] assignment _ rfl hgoes admittedCall_assignment
  have hmessage : "Request " ++ Numeral.text 1 ++ " is already bound to a shift"
      = "Request 1 is already bound to a shift" := by decide +kernel
  have hother : (2 : Int) ≠ 1 := by decide
  rw [hmessage] at htold
  exact ⟨⟨row, hr, hpending⟩, hbound, hcaught hreadable hother, htold hreadable hother⟩

/-- The request cannot be bound to the first shift either, but that is told as an internal error. -/
theorem stray_binding_on_same_shift_is_internal :
    strayDesk.IsCalm ∧ strayDesk.tables.Lawful ∧
    (∃ row, strayDesk.tables.request? 1 = some row ∧ row.status = .pending ∧
      row.isReadable = true) ∧
    strayDesk.tables.isBound 1 1 = true ∧
    ∃ e, (assign 2000 1 1 strayDesk).1 = .error (.error e) ∧ e ≠ .requestAlreadyBound 1 ∧
      e.isCallerError = false ∧ (Failure.ofDesk e).status = 500 := by
  refine ⟨isCalm_strayDesk, lawful_strayDesk, ?_, by decide +kernel, ?_⟩
  · exact ⟨_, rfl, by decide +kernel, by decide +kernel⟩
  · refine ⟨.database (.duplicate Bindings.pairConstraint), by decide +kernel, ?_, rfl, ?_⟩
    · exact DeskError.noConfusion
    · decide +kernel

end Web
end ShuttleDesk
