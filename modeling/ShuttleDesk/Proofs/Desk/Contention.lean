/-
  ShuttleDesk/Proofs/Desk/Contention.lean
  =======================================
  Calls that lock rows, while another session holds some.  Such a call ends as it does
  when nothing is held, or it fails with an error that asks for another try, and then it
  has changed nothing.  So the other try, once the rows are given back, is the first one.

  What can be in the way is little: the shift and the request that the call is about, and
  for a publication the requests bound to the shift.  They are met at different points,
  the bound requests only after the shift has been written; but all that is written by
  then is taken back.
-/
import ShuttleDesk.Proofs.Desk.Booking
import ShuttleDesk.Proofs.Store.Contention

namespace ShuttleDesk

open Procedure Statement

/-- What an operation answers when it could not have a row. -/
def DeskError.rowHeld : DeskError := .transient .lockNotAvailable

namespace Operation

variable {α : Type} {blocked : Prop} {w : World}

/-- The operation ends as it does when nothing is held, or it could not have a row. -/
abbrev Waits (blocked : Prop) (w : World) (x : Operation α) : Prop :=
  Contended .rowHeld blocked w x

theorem waits_lift {x : Statement α} (hx : Statement.Waits blocked w x) :
    Waits blocked w (liftM x : Operation α) :=
  hx.mapError DeskError.ofStorage

theorem waits_accepted (x : Except Refusal α) : Waits blocked w (accepted x) := .ofExcept _

theorem waits_inCalendar (x : Option α) : Waits blocked w (inCalendar x) := by
  cases x with
  | none => exact .overflow
  | some a => exact .pure a

theorem waits_locking {timeout : Int} {x : Operation α} (hx : Waits blocked w x) :
    Waits blocked w (locking timeout x) :=
  .transaction (.look (.lift (keeps_setLockTimeout timeout)) (waits_lift (waits_setLockTimeout _))
    fun _ _ => hx)

end Operation

namespace Desk

open Operation

variable {timeout : Int} {w : World}

/-! ### Operations that lock rows -/

theorem waits_existingUser {blocked : Prop} (id : Int) : Waits blocked w (existingUser id) :=
  .look (.lift (Users.keeps_find? id)) (waits_lift (waits_query _)) fun _ _ => .orFail _ _

theorem waits_assign (shift request : Int) :
    Waits (w.HoldsShift shift ∨ w.HoldsRequest request) w (assign timeout shift request) := by
  apply waits_locking
  refine .look (.lift (Shifts.keeps_lockWithCapacity _))
    (waits_lift (Shifts.waits_lockWithCapacity .inl)) fun _ _ => ?_
  refine .look (.orFail _ _) (.orFail _ _) fun s _ => ?_
  refine .look (.lift (Requests.keeps_lock _)) (waits_lift (Requests.waits_lock .inr)) fun _ _ => ?_
  refine .look (.orFail _ _) (.orFail _ _) fun r _ => .ite (.fail _) ?_
  refine .look (.lift (Shifts.keeps_load _)) (waits_lift (waits_query _)) fun load _ => ?_
  refine .bind ((Bindings.waits_insert _ _).mapError (bindError request)) fun _ v hv _ => ?_
  -- a new binding leaves the requests and what is held of them alone
  obtain ⟨-, -, -, -, rfl⟩ := Bindings.insert_ok_iff.1 (mapError_ok_iff.1 hv)
  exact .bind (waits_lift (Requests.waits_setStatus _ .inr)) fun _ _ _ _ => .pure _

theorem waits_unassign (shift request : Int) :
    Waits (w.HoldsShift shift ∨ w.HoldsRequest request) w (unassign timeout shift request) := by
  apply waits_locking
  refine .look (.lift (Shifts.keeps_lock _)) (waits_lift (Shifts.waits_lock .inl)) fun _ _ => ?_
  refine .look (.orFail _ _) (.orFail _ _) fun s _ => ?_
  refine .look (.lift (Requests.keeps_lock _)) (waits_lift (Requests.waits_lock .inr)) fun _ _ => ?_
  refine .look (.orFail _ _) (.orFail _ _) fun r _ => .ite (.fail _) ?_
  refine .bind (waits_lift (Bindings.waits_delete _ _)) fun found v hv _ => ?_
  obtain ⟨-, -, rfl⟩ := Bindings.delete_ok_iff.1 (lift_ok_iff.1 hv)
  exact .ite (waits_lift (Requests.waits_setStatus _ .inr)) (.fail _)

theorem waits_publishShift (shift : Int) :
    Waits (w.HoldsShift shift ∨ ∃ r ∈ w.tables.requestsOn shift, r.id ∈ w.heldRequests) w
      (publishShift timeout shift) := by
  apply waits_locking
  refine .look (.lift (Shifts.keeps_lock _)) (waits_lift (Shifts.waits_lock .inl)) fun _ _ => ?_
  refine .look (.orFail _ _) (.orFail _ _) fun s _ => ?_
  refine .bind (waits_lift (Shifts.waits_setStatus _ .inl)) fun _ v hv _ => ?_
  -- the requests of the shift are met after the shift has been written
  obtain ⟨-, -, rfl⟩ := Shifts.setStatus_ok_iff.1 (lift_ok_iff.1 hv)
  exact waits_lift (Requests.waits_publishOn fun r hr hheld => .inr ⟨r, hr, hheld⟩)

theorem waits_assignStaff (shift user : Int) :
    Waits (w.HoldsShift shift) w (assignStaff timeout shift user) := by
  refine .look (keeps_existingUser user) (waits_existingUser user) fun u _ => .ite (.fail _) ?_
  apply waits_locking
  refine .look (.lift (Shifts.keeps_lock _)) (waits_lift (Shifts.waits_lock id)) fun _ _ => ?_
  refine .look (.orFail _ _) (.orFail _ _) fun s _ => ?_
  exact .bind (waits_lift (Staffings.waits_insert _ _)) fun _ _ _ _ => .pure _

theorem waits_removeStaff (shift user : Int) :
    Waits (w.HoldsShift shift) w (removeStaff timeout shift user) := by
  apply waits_locking
  refine .look (.lift (Shifts.keeps_lock _)) (waits_lift (Shifts.waits_lock id)) fun _ _ => ?_
  refine .look (.orFail _ _) (.orFail _ _) fun s _ => ?_
  exact .bind (waits_lift (Staffings.waits_delete _ _)) fun _ _ _ _ => .pure _

theorem waits_editRequest (rider request : Int) (edit : RequestEdit) :
    Waits (∃ r ∈ w.tables.request? request, r.userId = rider ∧ r.id ∈ w.heldRequests) w
      (editRequest timeout rider request edit) := by
  apply waits_locking
  refine .look (.lift (Requests.keeps_lockOwned _ _)) (waits_lift (Requests.waits_lockOwned ?_))
    fun found hfound => ?_
  · intro r hr huser hheld
    exact ⟨r, hr, huser, hheld⟩
  refine .look (.orFail _ _) (.orFail _ _) fun r hr => .ite (.fail _) ?_
  refine .look (.ofExcept _) (.ofExcept _) fun _ _ => ?_
  refine .look (keeps_accepted _) (waits_accepted _) fun change _ => ?_
  refine .look (keeps_inCalendar _) (waits_inCalendar _) fun after hafter => waits_lift ?_
  -- the row that is saved is the row that was locked
  obtain ⟨-, -, hrow, -⟩ := Requests.lockOwned_ok_iff.1 (lift_ok_iff.1 hfound)
  obtain ⟨rfl, -⟩ := orFail_ok_iff.1 hr
  obtain ⟨hrow, huser⟩ := Option.filter_eq_some_iff.1 hrow
  have hid : after.id = r.id := RequestChange.after?_id (inCalendar_ok_iff.1 hafter).1
  refine Requests.waits_saveDetails ?_
  rintro ⟨row, hsaved, hheld⟩
  rw [(Tables.mem_of_request? hsaved).2, hid] at hheld
  exact ⟨r, hrow, beq_iff_eq.1 huser, hheld⟩

/-! ### Calls -/

/-- The call locks rows and changes them in one transaction. -/
def Call.locksRows : Call → Bool
  | .editRequest .. | .assign .. | .unassign .. | .publishShift .. | .assignStaff .. |
    .removeStaff .. => true
  | _ => false

/-- Another session holds the shift or the request that the call is about, or one of the requests
that it publishes. -/
def Call.IsBlocked (w : World) : Call → Prop
  | .assign shift request | .unassign shift request => w.HoldsShift shift ∨ w.HoldsRequest request
  | .publishShift shift =>
    w.HoldsShift shift ∨ ∃ r ∈ w.tables.requestsOn shift, r.id ∈ w.heldRequests
  | .assignStaff shift _ | .removeStaff shift _ => w.HoldsShift shift
  | .editRequest rider request _ =>
    ∃ r ∈ w.tables.request? request, r.userId = rider ∧ r.id ∈ w.heldRequests
  | _ => False

theorem waits_perform {c : Call} (h : c.locksRows = true) :
    Waits (c.IsBlocked w) w (c.perform timeout) := by
  cases c with
  | editRequest rider request edit => exact (waits_editRequest rider request edit).map _
  | assign shift request => exact (waits_assign shift request).map _
  | unassign shift request => exact (waits_unassign shift request).map _
  | publishShift shift => exact (waits_publishShift shift).map _
  | assignStaff shift user => exact (waits_assignStaff shift user).map _
  | removeStaff shift user => exact (waits_removeStaff shift user).map _
  | _ => cases h

/-- A call that locks rows and stops leaves the world as it is. -/
theorem unchanged_of_error {c : Call} {s : Stop DeskError} (h : c.locksRows = true)
    (hstop : (c.perform timeout w).1 = .error s) : (c.perform timeout w).2 = w := by
  have htables : (c.perform timeout w).2.tables = w.tables := by
    rcases perform_error (Prod.ext hstop rfl) with hkept | ⟨-, hstrands⟩
    · exact hkept.tables
    · cases c with
      | createShift driver departure => cases h
      | updateShift shift change => cases h
      | _ => exact hstrands.elim
  have hwaits : Waits (c.IsBlocked w) w (c.perform timeout) := waits_perform h
  have haround := hwaits.around
  rwa [← htables, World.withTables_self] at haround

/-- While another session holds rows, a call that locks rows gives the answer and leaves the tables
that it would if nothing were held, or it fails with an error that asks for another try.  That
happens only if something that the call is about is held, no row is changed then, and once
everything is released the call does, at any later time, what it would have done. -/
theorem contention_retryable (timeout : Int) (c : Call) (w : World) (h : c.locksRows = true) :
    ((c.perform timeout w).1 = (c.perform timeout w.released).1 ∧
      (c.perform timeout w).2.tables = (c.perform timeout w.released).2.tables) ∨
    ((∃ e, (c.perform timeout w).1 = .error (.error e) ∧
        e.code = "RETRYABLE" ∧ e.isRetryable = true ∧ e.isCallerError = false) ∧
      (c.perform timeout w).2.tables = w.tables ∧
      c.IsBlocked w ∧
      ∀ now, c.perform timeout ((c.perform timeout w).2.released.atTime now)
        = c.perform timeout (w.released.atTime now)) := by
  rcases (waits_perform h).outcome with hsame | ⟨hstop, hblocked⟩
  · left
    rw [hsame]
    exact ⟨rfl, rfl⟩
  · right
    rw [unchanged_of_error h hstop]
    exact ⟨⟨_, hstop, rfl, rfl, rfl⟩, rfl, hblocked, fun _ => rfl⟩

/-- A shift is published while another session holds the request on it: the shift stays a draft,
and the publication goes through once the request is released. -/
theorem contention_retryable_of_held_request :
    let w := { worldAfter 0 booking smallDesk with heldRequests := [1] }
    let publish := (Call.publishShift 2).perform 5
    (Call.publishShift 2).locksRows = true ∧
    (publish w).2.tables = w.tables ∧ (Call.publishShift 2).IsBlocked w ∧
    (publish ((publish w).2.released.atTime ⟨60⟩)).1 = .ok (.published 2 1) := by
  intro w publish
  have hstop : (publish w).1 ≠ (publish w.released).1 := by decide +kernel
  have hlater : (publish (w.released.atTime ⟨60⟩)).1 = .ok (.published 2 1) := by decide +kernel
  rcases contention_retryable 5 (.publishShift 2) w rfl with
    ⟨hsame, -⟩ | ⟨-, htables, hblocked, hagain⟩
  · exact absurd hsame hstop
  · exact ⟨rfl, htables, hblocked, (congrArg Prod.fst (hagain ⟨60⟩)).trans hlater⟩

end Desk
end ShuttleDesk
