/-
  ShuttleDesk/Proofs/Desk/BindingOutcome.lean
  ===========================================
  What comes of binding a request to a shift, and of unbinding it, when nothing is in
  the way: the store is open, no other session holds a row, and the waiting time can be
  set.  The outcome is then a function of the tables, `bindRefusal?` and
  `unbindRefusal?`, and a call that is refused has changed nothing.

  Two things that the operations are prepared for never come up after calls.  A pending
  request is not bound, so that binding it breaks no constraint.  Every shift has its
  driver, so that a shift that is there is also found with the limits of its car.

  One thing that they are not prepared for does come up.  Unbinding reads the whole row
  of the shift, and a departure past the calendar, which an edit that stopped has left
  behind, cannot be read.
-/
import ShuttleDesk.Proofs.Desk.OperatorView
import ShuttleDesk.Proofs.Store.Contention

namespace ShuttleDesk

open Procedure Statement

theorem Shifts.lockedOf_of_shift? {t : Tables} {shift : Int} {s : Shift} (hl : t.Lawful)
    (hs : t.shift? shift = some s) : ∃ locked, lockedOf t shift = some locked := by
  have hmem := (Tables.mem_of_shift? hs).1
  obtain ⟨d, hd⟩ := Option.isSome_iff_exists.1 (Tables.driver?_isSome_iff.2 (hl.driven s hmem))
  simp only [lockedOf, hs, hd, Option.bind_eq_bind, Option.bind_some, Option.pure_def]
  exact ⟨_, rfl⟩

theorem Shifts.lockedOf_of_missing {t : Tables} {shift : Int} (hs : t.shift? shift = none) :
    lockedOf t shift = none := by
  simp only [lockedOf, hs, Option.bind_eq_bind, Option.bind_none]

namespace Desk

open Tables

/-! ### What is in the way -/

/-- Why a request cannot be bound to a shift: the first reason, in this order. -/
def bindRefusal? (t : Tables) (shift request : Int) : Option DeskError :=
  match t.shift? shift, t.request? request with
  | none, _ => some (.shiftNotFound shift)
  | some _, none => some (.requestNotFound request)
  | some _, some r => if r.status = .pending then none else some (.requestNotPending request)

/-- Why a request cannot be unbound from a shift: the first reason, in this order. -/
def unbindRefusal? (t : Tables) (shift request : Int) : Option DeskError :=
  match t.shift? shift, t.request? request with
  | none, _ => some (.shiftNotFound shift)
  | some _, none => some (.requestNotFound request)
  | some _, some r =>
    if r.status = .published then some (.invalidState (notUnassignable request r.status))
    else if t.isBound shift request then none
    else some (.bindingNotFound shift request)

variable {wait shift request : Int} {w : World}

/-- Whatever is in the way, it is the caller's mistake, and it is not an old binding. -/
theorem isCallerError_of_refusal {t : Tables} {e : DeskError}
    (h : bindRefusal? t shift request = some e ∨ unbindRefusal? t shift request = some e) :
    e.isCallerError = true ∧ ∀ r, e ≠ .requestAlreadyBound r := by
  unfold bindRefusal? unbindRefusal? at h
  cases hs : t.shift? shift <;> cases hr : t.request? request <;> simp only [hs, hr] at h
  case some.some r =>
    rcases h with h | h
    · split at h <;> cases h
      exact ⟨rfl, fun _ => DeskError.noConfusion⟩
    · split at h
      · cases h
        exact ⟨rfl, fun _ => DeskError.noConfusion⟩
      · split at h <;> cases h
        exact ⟨rfl, fun _ => DeskError.noConfusion⟩
  all_goals
    rcases h with h | h <;> cases h <;> exact ⟨rfl, fun _ => DeskError.noConfusion⟩

/-! ### The locks when nothing is held -/

theorem isFree_of_isCalm {r : Request} (h : w.IsCalm) (hr : r.IsShowable) :
    Requests.IsFree w r :=
  ⟨by simp [h.heldRequests], hr.readable⟩

theorem lockWithCapacity_run (h : w.IsCalm) (shift : Int) :
    (liftM (Shifts.lockWithCapacity shift) : Operation _) w
      = (.ok (Shifts.lockedOf w.tables shift), w) := by
  refine lift_ok_iff.2 (Shifts.lockWithCapacity_ok_iff.2 ⟨h.isOpen, ?_, rfl, rfl⟩)
  simp [h.heldShifts]

theorem lockShift_run (h : w.IsCalm) (shift : Int) :
    (liftM (Shifts.lock shift) : Operation _) w
      = (if (w.tables.shift? shift).all Shift.isReadable then .ok (w.tables.shift? shift)
          else .error .timeOverflow, w) := by
  rw [lift_eq_mapError, mapError_run]
  simp only [Shifts.lock, bind_run, query_run h.isOpen, h.awaitShifts_run, readableRow?_run]
  by_cases hreadable : (w.tables.shift? shift).all Shift.isReadable = true
  · simp only [if_pos hreadable]
  · simp only [if_neg hreadable]

theorem lockRequest_run_eq (h : w.IsCalm) (request : Int) :
    (liftM (Requests.lock request) : Operation _) w
      = (if (w.tables.request? request).all Request.isReadable
          then .ok (w.tables.request? request) else .error .timeOverflow, w) := by
  rw [lift_eq_mapError, mapError_run]
  simp only [Requests.lock, Requests.lockFound, bind_run, query_run h.isOpen,
    h.awaitRequests_run, readableRow?_run]
  by_cases hreadable : (w.tables.request? request).all Request.isReadable = true
  · simp only [if_pos hreadable]
  · simp only [if_neg hreadable]

theorem lockRequest_run (h : w.IsCalm) (hshow : AllShowable w.tables) (request : Int) :
    (liftM (Requests.lock request) : Operation _) w = (.ok (w.tables.request? request), w) := by
  have hreadable : (w.tables.request? request).all Request.isReadable = true := by
    rw [Option.all_eq_true]
    intro r hr
    exact (hshow r (mem_of_request? hr).1).readable
  rw [lockRequest_run_eq h, if_pos hreadable]

/-- What stops before it writes stops alike when it waits for rows. -/
theorem locking_run_of_error {α : Type} {x : Operation α} {s : Stop DeskError} (h : w.IsCalm)
    (hwait : wait ≤ greatestLockTimeout) (hx : x w = (.error s, w)) :
    Operation.locking wait x w = (.error s, w) := by
  have hset : (liftM (setLockTimeout wait) : Operation Unit) w = (.ok (), w) :=
    lift_ok_iff.2 (setLockTimeout_ok_iff.2 ⟨h.isOpen, hwait, rfl⟩)
  unfold Operation.locking transaction
  simp only [bind_run, hset, hx]

theorem unbind_of_not_isBound {t : Tables} (h : ¬ t.isBound shift request = true) :
    t.unbind shift request = t := by
  have hother : ∀ b ∈ t.bindings, decide (b ≠ ⟨shift, request⟩) = true := by
    intro b hb
    rw [decide_eq_true_eq]
    rintro rfl
    exact h (isBound_iff.2 hb)
  unfold unbind
  rw [List.filter_eq_self.2 hother]

/-! ### The two operations -/

/-- A call is refused and changes nothing, or it answers and leaves these tables. -/
def refusedOr {α : Type} (refusal? : Option DeskError) (answer : α) (t : Tables) (w : World) :
    Except (Stop DeskError) α × World :=
  match refusal? with
  | some e => (.error (.error e), w)
  | none => (.ok answer, w.withTables t)

theorem refusedOr_error_iff {α : Type} {refusal? : Option DeskError} {answer : α} {t : Tables}
    {e : DeskError} :
    (refusedOr refusal? answer t w).1 = .error (.error e) ↔ refusal? = some e := by
  cases refusal? <;> simp [refusedOr]

theorem assign_run (h : w.IsCalm) (hwait : wait ≤ greatestLockTimeout) (hl : w.tables.Lawful)
    (ht : w.tables.Settled) (hshow : AllShowable w.tables) (shift request : Int) :
    ∃ warning, assign wait shift request w =
      refusedOr (bindRefusal? w.tables shift request) warning
        ((w.tables.bind shift request).setStatus w.now request .assigned) w := by
  have hshift := lockWithCapacity_run h shift
  have hrequest := lockRequest_run h hshow request
  unfold bindRefusal?
  cases hs : w.tables.shift? shift with
  | none =>
    rw [Shifts.lockedOf_of_missing hs] at hshift
    refine ⟨none, locking_run_of_error h hwait ?_⟩
    simp only [bind_run, hshift, orFail_none, fail_run]
  | some s =>
    obtain ⟨locked, hlocked⟩ := Shifts.lockedOf_of_shift? hl hs
    rw [hlocked] at hshift
    cases hr : w.tables.request? request with
    | none =>
      rw [hr] at hrequest
      refine ⟨none, locking_run_of_error h hwait ?_⟩
      simp only [bind_run, hshift, hrequest, orFail_some, orFail_none, pure_run, fail_run]
    | some r =>
      obtain ⟨hmem, hid⟩ := mem_of_request? hr
      by_cases hpending : r.status = .pending
      · simp only [if_pos hpending]
        have hfree : w.tables.bindingsOf request = [] := by
          rw [bindingsOf_eq_nil_iff, ← hid]
          exact (ht.pending_iff r hmem).1 hpending
        have hheld : locked.id ∉ w.heldShifts := by simp [h.heldShifts]
        exact ⟨_, assign_ok_iff.2 ⟨h.isOpen, hwait, locked, r, hlocked, hheld, hr,
          isFree_of_isCalm h (hshow r hmem), hpending, hfree, Option.isSome_of_eq_some hs,
          h.areFree _, rfl, rfl⟩⟩
      · simp only [if_neg hpending]
        rw [hr] at hrequest
        refine ⟨none, locking_run_of_error h hwait ?_⟩
        simp only [bind_run, hshift, hrequest, orFail_some, pure_run, ne_eq, hpending,
          not_false_eq_true, if_true, fail_run]

theorem unassign_run (h : w.IsCalm) (hwait : wait ≤ greatestLockTimeout)
    (hshow : AllShowable w.tables) (shift request : Int) :
    unassign wait shift request w =
      if (w.tables.shift? shift).all Shift.isReadable then
        refusedOr (unbindRefusal? w.tables shift request) ()
          ((w.tables.unbind shift request).setStatus w.now request .pending) w
      else (.error .timeOverflow, w) := by
  have hshift := lockShift_run h shift
  have hrequest := lockRequest_run h hshow request
  by_cases hreadable : (w.tables.shift? shift).all Shift.isReadable = true
  case neg =>
    rw [if_neg hreadable] at hshift ⊢
    refine locking_run_of_error h hwait ?_
    simp only [bind_run, hshift]
  rw [if_pos hreadable] at hshift ⊢
  unfold unbindRefusal?
  cases hs : w.tables.shift? shift with
  | none =>
    rw [hs] at hshift
    refine locking_run_of_error h hwait ?_
    simp only [bind_run, hshift, orFail_none, fail_run]
  | some s =>
    rw [hs] at hshift hreadable
    cases hr : w.tables.request? request with
    | none =>
      rw [hr] at hrequest
      refine locking_run_of_error h hwait ?_
      simp only [bind_run, hshift, hrequest, orFail_some, orFail_none, pure_run, fail_run]
    | some r =>
      have hmem := (mem_of_request? hr).1
      rw [hr] at hrequest
      by_cases hpublished : r.status = .published
      · simp only [if_pos hpublished]
        refine locking_run_of_error h hwait ?_
        simp only [bind_run, hshift, hrequest, orFail_some, pure_run, hpublished, if_true, fail_run]
      simp only [if_neg hpublished]
      by_cases hbound : w.tables.isBound shift request = true
      · simp only [if_pos hbound]
        have hfree : Shifts.IsFree w s := ⟨by simp [h.heldShifts], by simpa using hreadable⟩
        exact unassign_ok_iff.2 ⟨h.isOpen, hwait, s, r, hs, hfree, hr,
          isFree_of_isCalm h (hshow r hmem), hpublished, hbound, h.areFree _, rfl⟩
      · simp only [if_neg hbound]
        -- the statement that removes the binding runs, but there is nothing to remove
        have hdelete : (liftM (Bindings.delete shift request) : Operation Bool) w
            = (.ok false, w) := by
          refine lift_ok_iff.2 (Bindings.delete_ok_iff.2 ⟨h.isOpen, by simpa using hbound, ?_⟩)
          rw [unbind_of_not_isBound hbound, World.withTables_self]
        refine locking_run_of_error h hwait ?_
        simp only [bind_run, hshift, hrequest, orFail_some, pure_run, if_neg hpublished, hdelete,
          Bool.false_eq_true, if_false, fail_run]

/-! ### What both keep -/

/-- The constraints and the agreement hold, and every request can be shown. -/
structure InOrder (t : Tables) : Prop where
  lawful : t.Lawful
  settled : t.Settled
  showable : AllShowable t

theorem inOrder_worldAfter (timeout : Int) (cs : List TimedCall) {w : World} (h : IsFresh w) :
    InOrder (worldAfter timeout cs w).tables := by
  obtain ⟨hsound, ht⟩ := settled_worldAfter timeout cs h
  exact ⟨hsound.lawful, ht, allShowable_worldAfter timeout cs h⟩

section

variable {t : Tables} {now : Calendar.WallClock}

theorem bindRefusal?_eq_none_iff : bindRefusal? t shift request = none ↔
    (t.shift? shift).isSome = true ∧
      ∃ r, t.request? request = some r ∧ r.status = .pending := by
  unfold bindRefusal?
  cases t.shift? shift <;> cases t.request? request <;> simp

theorem unbindRefusal?_eq_none_iff : unbindRefusal? t shift request = none ↔
    (t.shift? shift).isSome = true ∧ t.isBound shift request = true ∧
      ∃ r, t.request? request = some r ∧ r.status ≠ .published := by
  unfold unbindRefusal?
  cases t.shift? shift <;> cases t.request? request <;> simp only [Option.isSome_some]
  case some.some s r =>
    by_cases hpublished : r.status = .published <;> by_cases hbound : t.isBound shift request <;>
      simp [hpublished, hbound]
  all_goals simp

/-- States are not shown in times. -/
theorem allShowable_setStatus {status : RequestStatus} (h : AllShowable t) :
    AllShowable (t.setStatus now request status) :=
  forall_mem_updateWhere h fun r hr _ => (h r hr).of_details rfl

theorem InOrder.not_mem_boundIds {r : Request} (h : InOrder t) (hr : t.request? request = some r)
    (hpending : r.status = .pending) : request ∉ t.boundIds := by
  obtain ⟨hmem, rfl⟩ := mem_of_request? hr
  exact (h.settled.pending_iff r hmem).1 hpending

theorem InOrder.assign (h : InOrder t) (hnone : bindRefusal? t shift request = none) :
    InOrder ((t.bind shift request).setStatus now request .assigned) := by
  obtain ⟨hshift, r, hr, hpending⟩ := bindRefusal?_eq_none_iff.1 hnone
  have hbind := h.lawful.bind (h.not_mem_boundIds hr hpending) (shift?_isSome_iff.1 hshift)
    (request?_isSome_iff.1 (Option.isSome_of_eq_some hr))
  exact ⟨hbind.setStatus _, h.settled.assign, allShowable_setStatus h.showable⟩

theorem InOrder.unassign (h : InOrder t) (hnone : unbindRefusal? t shift request = none) :
    InOrder ((t.unbind shift request).setStatus now request .pending) := by
  obtain ⟨-, hbound, -⟩ := unbindRefusal?_eq_none_iff.1 hnone
  exact ⟨h.lawful.unbind.setStatus _, h.settled.unassign h.lawful hbound,
    allShowable_setStatus h.showable⟩

end

/-- In every world that calls lead to, and in which nothing is in the way, a request can be bound to
a shift unless the first of three reasons speaks against it, and can be unbound unless the first of
four does.  No other error is answered.  But if the departure of the shift lies past the calendar,
nothing can be unbound from it. -/
theorem binding_outcomes (timeout : Int) (cs : List TimedCall) {w₀ w : World} (h : IsFresh w₀)
    (hreached : w.tables = (worldAfter timeout cs w₀).tables) (hcalm : w.IsCalm)
    (wait shift request : Int) (hwait : wait ≤ greatestLockTimeout) :
    (∃ warning, assign wait shift request w =
      refusedOr (bindRefusal? w.tables shift request) warning
        ((w.tables.bind shift request).setStatus w.now request .assigned) w) ∧
    (unassign wait shift request w =
      if (w.tables.shift? shift).all Shift.isReadable then
        refusedOr (unbindRefusal? w.tables shift request) ()
          ((w.tables.unbind shift request).setStatus w.now request .pending) w
      else (.error .timeOverflow, w)) ∧
    (∀ e, (assign wait shift request w).1 = .error (.error e)
        ∨ (unassign wait shift request w).1 = .error (.error e) →
      e.isCallerError = true ∧ ∀ r, e ≠ .requestAlreadyBound r) := by
  obtain ⟨hsound, ht⟩ := settled_worldAfter timeout cs h
  have hshow := allShowable_worldAfter timeout cs h
  have hl := hsound.lawful
  rw [← hreached] at hl ht hshow
  obtain ⟨warning, hassign⟩ := assign_run hcalm hwait hl ht hshow shift request
  have hunassign := unassign_run hcalm hwait hshow shift request
  refine ⟨⟨warning, hassign⟩, hunassign, ?_⟩
  intro e he
  rw [hassign, hunassign] at he
  rcases he with he | he
  · exact isCallerError_of_refusal (.inl (refusedOr_error_iff.1 he))
  · split at he
    · exact isCallerError_of_refusal (.inr (refusedOr_error_iff.1 he))
    · cases he

/-- A request on the second shift of the small desk can neither be bound to the first shift nor be
unbound from it. -/
theorem binding_outcomes_after_booking :
    let w := worldAfter 0 booking smallDesk
    IsFresh smallDesk ∧ w.IsCalm ∧
    assign 5 1 1 w = (.error (.error (.requestNotPending 1)), w) ∧
    unassign 5 1 1 w = (.error (.error (.bindingNotFound 1 1)), w) := by
  intro w
  have hcalm : w.IsCalm := by constructor <;> decide +kernel
  have hbind : bindRefusal? w.tables 1 1 = some (.requestNotPending 1) := by decide +kernel
  have hunbind : unbindRefusal? w.tables 1 1 = some (.bindingNotFound 1 1) := by decide +kernel
  have hreadable : (w.tables.shift? 1).all Shift.isReadable = true := by decide +kernel
  obtain ⟨⟨warning, hassign⟩, hunassign, -⟩ :=
    binding_outcomes 0 booking isFresh_smallDesk (rfl : w.tables = _) hcalm 5 1 1 (by decide)
  rw [hbind] at hassign
  rw [hunbind, if_pos hreadable] at hunassign
  exact ⟨isFresh_smallDesk, hcalm, hassign, hunassign⟩

/-- The departure of the shift that a request is bound to is moved past the calendar: that call
stops, but what it has written stays.  Then nothing speaks against unbinding the request, and yet
it cannot be unbound. -/
theorem unassign_stops_past_calendar :
    let stranded := worldAfter 0
      (booking ++ [.undisturbed (.updateShift 2 ⟨none, some Calendar.DateTime.last⟩)]) smallDesk
    IsFresh smallDesk ∧ stranded.IsCalm ∧
    unbindRefusal? stranded.tables 2 1 = none ∧
    (unassign 5 2 1 stranded).1 = .error .timeOverflow := by
  intro stranded
  have hcalm : stranded.IsCalm := by constructor <;> decide +kernel
  have hunreadable : ¬ (stranded.tables.shift? 2).all Shift.isReadable = true := by decide +kernel
  refine ⟨isFresh_smallDesk, hcalm, by decide +kernel, ?_⟩
  rw [unassign_run hcalm (by decide) (allShowable_worldAfter 0 _ isFresh_smallDesk),
    if_neg hunreadable]

end Desk
end ShuttleDesk
