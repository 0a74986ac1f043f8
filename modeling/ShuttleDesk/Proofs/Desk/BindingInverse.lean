/-
  ShuttleDesk/Proofs/Desk/BindingInverse.lean
  ===========================================
  Binding a request to a shift and unbinding it undo each other, in both orders.  Each
  call writes the state of the request and its bridge row, and the other call writes
  both back; what stays of the two is the stamp of the request.

  That the second call is not refused takes the agreement of states and bindings.  Only
  a pending request is bound, and a bound request that is not published is assigned, so
  that the state that is written back is the one that was there.

  The stamps are erased before rows are compared.  Bridge rows have no order of their
  own, and a row that is written back stands behind the others.
-/
import ShuttleDesk.Proofs.Desk.BindingOutcome
import ShuttleDesk.Proofs.Desk.LoadHistory

namespace ShuttleDesk

open Procedure Statement

/-- The row without its stamp, if the request is one whose stamp does not count. -/
def Request.unstamped (p : Int → Bool) (r : Request) : Request :=
  if p r.id then { r with updatedAt := ⟨0⟩ } else r

namespace Request

variable {p : Int → Bool} {r : Request}

/-- Whatever does not look at the stamp is the same. -/
theorem unstamped_column {β : Type} (column : Request → β)
    (h : ∀ (r : Request) (now : Calendar.WallClock),
      column { r with updatedAt := now } = column r) : column (r.unstamped p) = column r := by
  unfold unstamped
  split
  · exact h r ⟨0⟩
  · rfl

theorem unstamped_of_written (h : p r.id = true) (now : Calendar.WallClock) :
    Request.unstamped p { r with updatedAt := now } = r.unstamped p := by
  simp only [unstamped, h, if_true]

end Request

namespace Tables

/-- The same rows in every table, but for the stamps of some requests. -/
structure SameButStamps (p : Int → Bool) (t t' : Tables) : Prop where
  users : t'.users = t.users
  drivers : t'.drivers = t.drivers
  shifts : t'.shifts = t.shifts
  staffings : t'.staffings = t.staffings
  bindings : t'.bindings.Perm t.bindings
  requests : t'.requests.map (·.unstamped p) = t.requests.map (·.unstamped p)

/-- What binding or unbinding one request may change: the state and the stamp of the request, and
the bridge row of the two. -/
structure ChangesOnly (t t' : Tables) (shift request : Int) : Prop where
  users : t'.users = t.users
  drivers : t'.drivers = t.drivers
  shifts : t'.shifts = t.shifts
  staffings : t'.staffings = t.staffings
  bindings : ∀ b : Binding, b ≠ ⟨shift, request⟩ → t'.bindings.count b = t.bindings.count b
  requests : List.Forall₂
    (fun r r' => r' = if r.id = request
      then { r with status := r'.status, updatedAt := r'.updatedAt } else r)
    t.requests t'.requests

variable {p : Int → Bool} {t t' u : Tables} {shift request : Int} {now : Calendar.WallClock}

namespace SameButStamps

theorem refl (t : Tables) : t.SameButStamps p t := ⟨rfl, rfl, rfl, rfl, .refl _, rfl⟩

theorem symm (h : t.SameButStamps p t') : t'.SameButStamps p t where
  users := h.users.symm
  drivers := h.drivers.symm
  shifts := h.shifts.symm
  staffings := h.staffings.symm
  bindings := h.bindings.symm
  requests := h.requests.symm

theorem trans (h : t.SameButStamps p t') (k : t'.SameButStamps p u) : t.SameButStamps p u where
  users := k.users.trans h.users
  drivers := k.drivers.trans h.drivers
  shifts := k.shifts.trans h.shifts
  staffings := k.staffings.trans h.staffings
  bindings := k.bindings.trans h.bindings
  requests := k.requests.trans h.requests

/-! ### What is seen of the rows -/

/-- A choice of requests that does not look at stamps chooses the same ones. -/
theorem map_filter_requests {chosen : Request → Bool} (h : t.SameButStamps p t')
    (hchosen : ∀ r : Request, chosen (r.unstamped p) = chosen r) :
    (t'.requests.filter chosen).map (·.unstamped p)
      = (t.requests.filter chosen).map (·.unstamped p) := by
  have herased : ∀ rs : List Request, (rs.filter chosen).map (·.unstamped p)
      = (rs.map (·.unstamped p)).filter chosen := by
    intro rs
    rw [List.filter_map]
    congr 2
    funext r
    exact (hchosen r).symm
  rw [herased, herased, h.requests]

theorem isBound_eq (h : t.SameButStamps p t') (request : Int) :
    t'.isBound shift request = t.isBound shift request := by
  rw [Bool.eq_iff_iff, isBound_iff, isBound_iff]
  exact h.bindings.mem_iff

theorem map_requestsOn (h : t.SameButStamps p t') (shift : Int) :
    (t'.requestsOn shift).map (·.unstamped p) = (t.requestsOn shift).map (·.unstamped p) := by
  have hsame : t'.requestsOn shift = t'.requests.filter fun r => t.isBound shift r.id := by
    unfold requestsOn
    congr 1
    funext r
    exact h.isBound_eq r.id
  rw [hsame]
  apply h.map_filter_requests
  intro r
  exact Request.unstamped_column (fun r => t.isBound shift r.id) fun _ _ => rfl

theorem map_requestsIn (h : t.SameButStamps p t') (status : RequestStatus) :
    (t'.requestsIn status).map (·.unstamped p) = (t.requestsIn status).map (·.unstamped p) := by
  apply h.map_filter_requests
  intro r
  exact Request.unstamped_column (·.status == status) fun _ _ => rfl

theorem staffOf_eq (h : t.SameButStamps p t') : t'.staffOf shift = t.staffOf shift := by
  rw [staffOf, staffOf, h.users, h.staffings]

/-- Stamps have no weight. -/
theorem load_eq (h : t.SameButStamps p t') (hl : t.Lawful) (hl' : t'.Lawful) (shift : Int) :
    t'.load shift = t.load shift := by
  have hrows := h.map_requestsOn shift
  have hlength : (t'.requestsOn shift).length = (t.requestsOn shift).length := by
    simpa using congrArg List.length hrows
  have hbags : (t'.requestsOn shift).map Request.bags = (t.requestsOn shift).map Request.bags := by
    have herased : Request.bags ∘ Request.unstamped p = Request.bags := by
      funext r
      exact Request.unstamped_column Request.bags fun _ _ => rfl
    simpa [herased] using congrArg (List.map Request.bags) hrows
  obtain ⟨hchecked, hcarryOn⟩ := total_of_map_bags hbags
  rw [Tables.load_eq hl, Tables.load_eq hl', hlength, h.staffOf_eq, hchecked, hcarryOn]

end SameButStamps

/-! ### The rows that are written -/

theorem request?_setStatus {status : RequestStatus} (id : Int) :
    (t.setStatus now request status).request? id = (t.request? id).map fun r =>
      if r.id == request then { r with status, updatedAt := now } else r :=
  request?_editRequests fun _ => rfl

theorem request?_setStatus_self {status : RequestStatus} {r : Request}
    (hr : t.request? request = some r) : (t.setStatus now request status).request? request
      = some { r with status, updatedAt := now } := by
  rw [request?_setStatus, hr, Option.map_some, (mem_of_request? hr).2, beq_self_eq_true,
    if_pos rfl]

theorem request?_setStatus_of_ne {status : RequestStatus} {id : Int} (hne : id ≠ request) :
    (t.setStatus now request status).request? id = t.request? id := by
  rw [request?_setStatus]
  cases hr : t.request? id with
  | none => rfl
  | some r =>
    have hother : ¬ (r.id == request) = true := by
      rw [(mem_of_request? hr).2, beq_iff_eq]
      exact hne
    rw [Option.map_some, if_neg hother]

/-- A state that is written back does not show. -/
theorem map_unstamped_setStatus {r : Request} (hl : t.Lawful) (hr : t.request? request = some r)
    (hp : p request = true) :
    (t.setStatus now request r.status).requests.map (·.unstamped p)
      = t.requests.map (·.unstamped p) := by
  apply map_updateWhere
  intro s hs hchosen
  obtain rfl : s.id = request := beq_iff_eq.1 hchosen
  obtain rfl : s = r := Option.some.inj ((hl.request?_of_mem hs).symm.trans hr)
  exact Request.unstamped_of_written hp now

/-- Of two states of one request the second counts. -/
theorem setStatus_setStatus {earlier : Calendar.WallClock} {status status' : RequestStatus} :
    (t.setStatus earlier request status).setStatus now request status'
      = t.setStatus now request status' := by
  change { t with requests := _ } = { t with requests := _ }
  congr 1
  exact updateWhere_updateWhere (fun _ => rfl) fun _ => rfl

theorem unbind_bind (hfree : request ∉ t.boundIds) :
    (t.bind shift request).unbind shift request = t := by
  have hother : ¬ t.isBound shift request = true :=
    fun hbound => hfree (mem_boundIds_of_isBound hbound)
  have hgone : (t.bind shift request).unbind shift request = t.unbind shift request := by
    simp [bind, unbind]
  rw [hgone, Desk.unbind_of_not_isBound hother]

/-- A bridge row that is written back stands behind the others. -/
theorem bind_unbind_perm (hl : t.Lawful) (hbound : t.isBound shift request = true) :
    ((t.unbind shift request).bind shift request).bindings.Perm t.bindings := by
  have hbindings : t.bindings.Nodup := List.Nodup.of_map _ hl.boundOnce
  have hfree : (⟨shift, request⟩ : Binding) ∉ (t.unbind shift request).bindings := by
    simp [unbind]
  have hnodup : ((t.unbind shift request).bind shift request).bindings.Nodup :=
    nodup_append_one (hbindings.filter _) hfree
  rw [List.perm_ext_iff_of_nodup hnodup hbindings]
  intro b
  simp only [bind, unbind, List.mem_append, List.mem_filter, List.mem_singleton,
    decide_eq_true_eq]
  constructor
  · rintro (⟨hb, -⟩ | rfl)
    · exact hb
    · exact isBound_iff.1 hbound
  · intro hb
    by_cases hself : b = ⟨shift, request⟩
    · exact .inr hself
    · exact .inl ⟨hb, hself⟩

/-- Only the state is written back; the bridge rows may stand in another order. -/
theorem sameButStamps_setStatus {r : Request} {bs : List Binding} (hl : t.Lawful)
    (hr : t.request? request = some r) (hbs : bs.Perm t.bindings) :
    t.SameButStamps (· == request)
      (({ t with bindings := bs } : Tables).setStatus now request r.status) where
  users := rfl
  drivers := rfl
  shifts := rfl
  staffings := rfl
  bindings := hbs
  requests := by
    have hrows : (t.setStatus now request r.status).requests.map (·.unstamped (· == request)) = _ :=
      map_unstamped_setStatus hl hr (beq_self_eq_true request)
    exact hrows

namespace ChangesOnly

theorem refl (t : Tables) (shift request : Int) : t.ChangesOnly t shift request where
  users := rfl
  drivers := rfl
  shifts := rfl
  staffings := rfl
  bindings _ _ := rfl
  requests := by
    rw [List.forall₂_same]
    intro r _
    split <;> rfl

theorem setStatus {status : RequestStatus} (h : t.ChangesOnly t' shift request)
    (hrequests : t'.requests = t.requests) :
    t.ChangesOnly (t'.setStatus now request status) shift request where
  users := h.users
  drivers := h.drivers
  shifts := h.shifts
  staffings := h.staffings
  bindings := h.bindings
  requests := by
    have hrows : List.Forall₂ _ t'.requests (t'.setStatus now request status).requests :=
      forall₂_updateWhere (p := fun r : Request => r.id = request) fun _ => beq_iff_eq
    rw [hrequests] at hrows
    refine hrows.imp ?_
    rintro r r' rfl
    by_cases hid : r.id = request
    · simp only [if_pos hid]
    · simp only [if_neg hid]

theorem assign :
    t.ChangesOnly ((t.bind shift request).setStatus now request .assigned) shift request := by
  refine setStatus { refl t shift request with bindings := ?_ } rfl
  intro b hb
  simp [bind, Ne.symm hb]

theorem unassign :
    t.ChangesOnly ((t.unbind shift request).setStatus now request .pending) shift request := by
  refine setStatus { refl t shift request with bindings := ?_ } rfl
  intro b hb
  exact List.count_filter (by simpa using hb)

end ChangesOnly
end Tables

namespace Desk

open Tables

def ShiftDetail.unstamped (p : Int → Bool) (d : ShiftDetail) : ShiftDetail :=
  { d with requests := d.requests.map (·.unstamped p) }

/-- A world in which everything is as it was, but for the stamp of one request: the rows, the ids
that have been given out, what the shifts carry and what operators see. -/
structure Restored (w w' : World) (request : Int) : Prop where
  rows : w.tables.SameButStamps (· == request) w'.tables
  issued : w'.issued = w.issued
  loads : ∀ shift, (Shifts.load shift w').1 = (Shifts.load shift w).1
  overview : (dashboard w').1.map (List.map (·.unstamped (· == request)))
    = (dashboard w).1.map (List.map (·.unstamped (· == request)))
  pending : (pendingRequests w').1.map (List.map (·.unstamped (· == request)))
    = (pendingRequests w).1.map (List.map (·.unstamped (· == request)))

variable {w w' : World} {t : Tables} {wait shift request : Int} {earlier now : Calendar.WallClock}

/-! ### What operators see -/

theorem unstamped_detailOf {p : Int → Bool} {t' : Tables} (h : t.SameButStamps p t') (s : Shift) :
    (detailOf t' s).unstamped p = (detailOf t s).unstamped p := by
  have hdriver : t'.driver? s.driverId = t.driver? s.driverId := by
    rw [driver?, h.drivers, ← driver?]
  simp only [ShiftDetail.unstamped, detailOf, hdriver, h.staffOf_eq, h.map_requestsOn]

theorem restored_of_sameButStamps (h : w.tables.SameButStamps (· == request) w'.tables)
    (hissued : w'.issued = w.issued) (hcalm : w.IsCalm) (hcalm' : w'.IsCalm)
    (ht : InOrder w.tables) (ht' : InOrder w'.tables) : Restored w w' request where
  rows := h
  issued := hissued
  loads := by
    intro shift
    have hload : ∀ {w : World}, w.IsCalm → (Shifts.load shift w).1 = .ok (w.tables.load shift) := by
      intro w hcalm
      exact congrArg Prod.fst (query_run hcalm.isOpen)
    rw [hload hcalm, hload hcalm', h.load_eq ht.lawful ht'.lawful]
  overview := by
    have hdepartures : departures w'.tables = departures w.tables := by
      rw [departures, h.shifts, ← departures]
    rw [dashboard_run hcalm.isOpen ht.showable, dashboard_run hcalm'.isOpen ht'.showable, h.shifts,
      hdepartures]
    split
    · simp only [Except.map, List.map_map]
      congr 2
      funext s
      exact unstamped_detailOf h s
    · rfl
  pending := by
    rw [pendingRequests_run hcalm.isOpen ht.showable,
      pendingRequests_run hcalm'.isOpen ht'.showable]
    exact congrArg Except.ok (h.map_requestsIn .pending)

/-! ### The second call is not refused -/

theorem unbindRefusal?_of_assigned (hnone : bindRefusal? t shift request = none) :
    unbindRefusal? ((t.bind shift request).setStatus now request .assigned) shift request
      = none := by
  obtain ⟨hshift, r, hr, -⟩ := bindRefusal?_eq_none_iff.1 hnone
  have hbefore : (t.bind shift request).request? request = some r := hr
  have hbound : (t.bind shift request).isBound shift request = true := by
    rw [isBound_iff]
    exact List.mem_append_right _ (List.mem_singleton_self _)
  exact unbindRefusal?_eq_none_iff.2 ⟨hshift, hbound, _, request?_setStatus_self hbefore,
    RequestStatus.noConfusion⟩

theorem bindRefusal?_of_unassigned {other : Int} (hnone : unbindRefusal? t shift request = none)
    (hother : (t.shift? other).isSome = true) :
    bindRefusal? ((t.unbind shift request).setStatus now request .pending) other request
      = none := by
  obtain ⟨-, -, r, hr, -⟩ := unbindRefusal?_eq_none_iff.1 hnone
  have hbefore : (t.unbind shift request).request? request = some r := hr
  exact bindRefusal?_eq_none_iff.2 ⟨hother, _, request?_setStatus_self hbefore, rfl⟩

/-! ### The rows after both calls -/

theorem sameButStamps_of_unassigned (ht : InOrder t) (hnone : bindRefusal? t shift request = none) :
    t.SameButStamps (· == request)
      ((((t.bind shift request).setStatus earlier request .assigned).unbind
        shift request).setStatus now request .pending) := by
  obtain ⟨-, r, hr, hpending⟩ := bindRefusal?_eq_none_iff.1 hnone
  have hfree := ht.not_mem_boundIds hr hpending
  have hrows : (((t.bind shift request).setStatus earlier request .assigned).unbind
      shift request).setStatus now request .pending = t.setStatus now request r.status :=
    calc
      _ = (((t.bind shift request).unbind shift request).setStatus earlier request
            .assigned).setStatus now request .pending := rfl
      _ = t.setStatus now request r.status := by
        rw [unbind_bind hfree, setStatus_setStatus, hpending]
  rw [hrows]
  exact sameButStamps_setStatus ht.lawful hr (.refl _)

theorem sameButStamps_of_reassigned (ht : InOrder t)
    (hnone : unbindRefusal? t shift request = none) :
    t.SameButStamps (· == request)
      ((((t.unbind shift request).setStatus earlier request .pending).bind
        shift request).setStatus now request .assigned) := by
  obtain ⟨-, hbound, r, hr, hunpublished⟩ := unbindRefusal?_eq_none_iff.1 hnone
  obtain ⟨hmem, hid⟩ := mem_of_request? hr
  -- what is bound is not pending, so only one state is left
  have hassigned : r.status = .assigned := by
    have hpending := (ht.settled.not_pending_iff hmem).2 ⟨shift, hid ▸ hbound⟩
    cases hstatus : r.status with
    | pending => exact absurd hstatus hpending
    | assigned => rfl
    | published => exact absurd hstatus hunpublished
  have hrows : (((t.unbind shift request).setStatus earlier request .pending).bind
      shift request).setStatus now request .assigned
        = ((t.unbind shift request).bind shift request).setStatus now request r.status :=
    calc
      _ = (((t.unbind shift request).bind shift request).setStatus earlier request
            .pending).setStatus now request .assigned := rfl
      _ = _ := by rw [setStatus_setStatus, hassigned]
  rw [hrows]
  exact sameButStamps_setStatus ht.lawful hr (bind_unbind_perm ht.lawful hbound)

/-! ### Both calls -/

theorem refusedOr_ok_iff {α : Type} {refusal? : Option DeskError} {answer a : α} :
    refusedOr refusal? answer t w = (.ok a, w') ↔
      refusal? = none ∧ answer = a ∧ w.withTables t = w' := by
  cases refusal? <;> simp [refusedOr]

/-- What the two calls need of the world, and they leave it so. -/
structure IsReady (w : World) : Prop where
  calm : w.IsCalm
  inOrder : InOrder w.tables

theorem IsReady.atTime (h : IsReady w) (now : Calendar.WallClock) : IsReady (w.atTime now) :=
  ⟨⟨h.calm.isOpen, h.calm.heldShifts, h.calm.heldRequests⟩, h.inOrder⟩

theorem IsReady.withTables (h : IsReady w) (ht : InOrder t) : IsReady (w.withTables t) :=
  ⟨⟨h.calm.isOpen, h.calm.heldShifts, h.calm.heldRequests⟩, ht⟩

/-- The outcome of an assignment. -/
theorem IsReady.assign_eq (h : IsReady w) (hwait : wait ≤ greatestLockTimeout)
    (shift request : Int) : ∃ warning, assign wait shift request w =
      refusedOr (bindRefusal? w.tables shift request) warning
        ((w.tables.bind shift request).setStatus w.now request .assigned) w :=
  Desk.assign_run h.calm hwait h.inOrder.lawful h.inOrder.settled h.inOrder.showable shift request

theorem IsReady.assign_run (h : IsReady w) (hwait : wait ≤ greatestLockTimeout)
    (hnone : bindRefusal? w.tables shift request = none) :
    ∃ warning, assign wait shift request w = (.ok warning,
      w.withTables ((w.tables.bind shift request).setStatus w.now request .assigned)) := by
  obtain ⟨warning, hrun⟩ := h.assign_eq hwait shift request
  rw [hnone] at hrun
  exact ⟨warning, hrun⟩

theorem IsReady.of_assign_run {warning : Option Warning} (h : IsReady w)
    (hwait : wait ≤ greatestLockTimeout) (hrun : assign wait shift request w = (.ok warning, w')) :
    bindRefusal? w.tables shift request = none ∧
      w' = w.withTables ((w.tables.bind shift request).setStatus w.now request .assigned) := by
  obtain ⟨_, hassign⟩ := h.assign_eq hwait shift request
  rw [hassign, refusedOr_ok_iff] at hrun
  exact ⟨hrun.1, hrun.2.2.symm⟩

theorem IsReady.of_unassign_run (h : IsReady w) (hwait : wait ≤ greatestLockTimeout)
    (hrun : unassign wait shift request w = (.ok (), w')) :
    unbindRefusal? w.tables shift request = none ∧
      w' = w.withTables ((w.tables.unbind shift request).setStatus w.now request .pending) := by
  rw [unassign_run h.calm hwait h.inOrder.showable] at hrun
  split at hrun
  · rw [refusedOr_ok_iff] at hrun
    exact ⟨hrun.1, hrun.2.2.symm⟩
  · cases hrun

/-- A request that may be unbound is, unless the departure of the shift cannot be read. -/
theorem IsReady.unassign_run {s : Shift} (h : IsReady w) (hwait : wait ≤ greatestLockTimeout)
    (hnone : unbindRefusal? w.tables shift request = none)
    (hs : w.tables.shift? shift = some s) :
    unassign wait shift request w =
      if s.isReadable then
        (.ok (), w.withTables ((w.tables.unbind shift request).setStatus w.now request .pending))
      else (.error .timeOverflow, w) := by
  rw [Desk.unassign_run h.calm hwait h.inOrder.showable, hnone, hs, Option.all_some]
  rfl

/-- The world between the two calls, and after both. -/
theorem IsReady.restored_of_unassigned (h : IsReady w)
    (hnone : bindRefusal? w.tables shift request = none) (later : Calendar.WallClock) :
    let bound := w.withTables ((w.tables.bind shift request).setStatus w.now request .assigned)
    let undone := (bound.atTime later).withTables
      ((bound.tables.unbind shift request).setStatus later request .pending)
    IsReady bound ∧ unbindRefusal? bound.tables shift request = none ∧
      IsReady undone ∧ Restored w undone request := by
  intro bound undone
  have hbound : IsReady bound := h.withTables (h.inOrder.assign hnone)
  have hundo : unbindRefusal? bound.tables shift request = none := unbindRefusal?_of_assigned hnone
  have hundone : IsReady undone := (hbound.atTime later).withTables (hbound.inOrder.unassign hundo)
  exact ⟨hbound, hundo, hundone, restored_of_sameButStamps
    (sameButStamps_of_unassigned h.inOrder hnone) rfl h.calm hundone.calm h.inOrder hundone.inOrder⟩

theorem IsReady.restored_of_reassigned (h : IsReady w)
    (hnone : unbindRefusal? w.tables shift request = none) (later : Calendar.WallClock) :
    let freed := w.withTables ((w.tables.unbind shift request).setStatus w.now request .pending)
    let undone := (freed.atTime later).withTables
      ((freed.tables.bind shift request).setStatus later request .assigned)
    IsReady freed ∧ bindRefusal? freed.tables shift request = none ∧ Restored w undone request := by
  intro freed undone
  have hfreed : IsReady freed := h.withTables (h.inOrder.unassign hnone)
  have hundo : bindRefusal? freed.tables shift request = none :=
    bindRefusal?_of_unassigned hnone (unbindRefusal?_eq_none_iff.1 hnone).1
  have hundone : IsReady undone := (hfreed.atTime later).withTables (hfreed.inOrder.assign hundo)
  exact ⟨hfreed, hundo, restored_of_sameButStamps (sameButStamps_of_reassigned h.inOrder hnone) rfl
    h.calm hundone.calm h.inOrder hundone.inOrder⟩

/-! ### What is not changed -/

theorem changesOnly_assign (wait shift request : Int) (w : World) :
    w.tables.ChangesOnly (assign wait shift request w).2.tables shift request := by
  rcases hrun : assign wait shift request w with ⟨stop | warning, w'⟩
  · rw [(atomic_assign wait shift request w stop w' hrun).tables]
    exact .refl _ _ _
  · obtain ⟨-, -, -, -, -, -, -, -, -, -, -, -, -, rfl⟩ := assign_ok_iff.1 hrun
    exact .assign

theorem changesOnly_unassign (wait shift request : Int) (w : World) :
    w.tables.ChangesOnly (unassign wait shift request w).2.tables shift request := by
  rcases hrun : unassign wait shift request w with ⟨stop | _, w'⟩
  · rw [(atomic_unassign wait shift request w stop w' hrun).tables]
    exact .refl _ _ _
  · obtain ⟨-, -, -, -, -, -, -, -, -, -, -, rfl⟩ := unassign_ok_iff.1 hrun
    exact .unassign

/-- In every world that calls lead to, and in which nothing is in the way, unbinding a request from
a shift undoes that it was bound, and binding it undoes that it was unbound.  Everything is as it
was but for the stamp of the request, and a request that was unbound can be bound to any shift.
Neither call writes any other row.  But if the departure of the shift lies past the calendar, the
request is bound and cannot be unbound. -/
theorem assign_and_unassign_undo (timeout : Int) (cs : List TimedCall) {w₀ w : World}
    (h : IsFresh w₀) (hreached : w.tables = (worldAfter timeout cs w₀).tables) (hcalm : w.IsCalm)
    (wait shift request : Int) (later evenLater : Calendar.WallClock) :
    (∀ warning bound, assign wait shift request w = (.ok warning, bound) →
      ∃ s, w.tables.shift? shift = some s ∧
        (s.isReadable = true → ∃ undone,
          unassign wait shift request (bound.atTime later) = (.ok (), undone) ∧
          Restored w undone request ∧
          ∀ other, (w.tables.shift? other).isSome = true → ∃ warning' rebound,
            assign wait other request (undone.atTime evenLater) = (.ok warning', rebound)) ∧
        (s.isReadable = false → unassign wait shift request (bound.atTime later)
          = (.error .timeOverflow, bound.atTime later))) ∧
    (∀ freed, unassign wait shift request w = (.ok (), freed) → ∃ warning undone,
      assign wait shift request (freed.atTime later) = (.ok warning, undone) ∧
      Restored w undone request) ∧
    w.tables.ChangesOnly (assign wait shift request w).2.tables shift request ∧
    w.tables.ChangesOnly (unassign wait shift request w).2.tables shift request := by
  have hready : IsReady w := by
    refine ⟨hcalm, ?_⟩
    rw [hreached]
    exact inOrder_worldAfter timeout cs h
  refine ⟨?_, ?_, changesOnly_assign wait shift request w, changesOnly_unassign wait shift request w⟩
  · intro warning bound hrun
    have hwait : wait ≤ greatestLockTimeout := (assign_ok_iff.1 hrun).2.1
    obtain ⟨hnone, rfl⟩ := hready.of_assign_run hwait hrun
    obtain ⟨s, hs⟩ := Option.isSome_iff_exists.1 (bindRefusal?_eq_none_iff.1 hnone).1
    obtain ⟨hbound, hundo, hundone, hrestored⟩ := hready.restored_of_unassigned hnone later
    have hunassign := (hbound.atTime later).unassign_run hwait hundo hs
    refine ⟨s, hs, ?_, ?_⟩
    · intro hreadable
      rw [if_pos hreadable] at hunassign
      refine ⟨_, hunassign, hrestored, ?_⟩
      intro other hother
      obtain ⟨warning', hagain⟩ := (hundone.atTime evenLater).assign_run hwait
        (bindRefusal?_of_unassigned hundo hother)
      exact ⟨warning', _, hagain⟩
    · intro hreadable
      rw [if_neg (Bool.eq_false_iff.1 hreadable)] at hunassign
      exact hunassign
  · intro freed hrun
    have hwait : wait ≤ greatestLockTimeout := (unassign_ok_iff.1 hrun).2.1
    obtain ⟨hnone, rfl⟩ := hready.of_unassign_run hwait hrun
    obtain ⟨hfreed, hundo, hrestored⟩ := hready.restored_of_reassigned hnone later
    obtain ⟨warning, hassign⟩ := (hfreed.atTime later).assign_run hwait hundo
    exact ⟨warning, _, hassign, hrestored⟩

/-- A request of the small desk is bound to the second shift, and the next second it is unbound. -/
theorem assign_and_unassign_undo_after_request :
    let w := worldAfter 0 [.undisturbed smallRequest] smallDesk
    IsFresh smallDesk ∧ w.IsCalm ∧ ∃ bound undone,
      assign 5 2 1 w = (.ok none, bound) ∧
      unassign 5 2 1 (bound.atTime ⟨1⟩) = (.ok (), undone) ∧ Restored w undone 1 := by
  intro w
  have hcalm : w.IsCalm := by constructor <;> decide +kernel
  have hnone : (assign 5 2 1 w).1 = .ok none := by decide +kernel
  have hassign : assign 5 2 1 w = (.ok none, (assign 5 2 1 w).2) := Prod.ext hnone rfl
  have hreadable : (w.tables.shift? 2).all Shift.isReadable = true := by decide +kernel
  obtain ⟨s, hs, hundo, -⟩ := (assign_and_unassign_undo 0 [.undisturbed smallRequest]
    isFresh_smallDesk (rfl : w.tables = _) hcalm 5 2 1 ⟨1⟩ ⟨2⟩).1 none _ hassign
  rw [hs, Option.all_some] at hreadable
  obtain ⟨undone, hunassign, hrestored, -⟩ := hundo hreadable
  exact ⟨isFresh_smallDesk, hcalm, _, undone, hassign, hunassign, hrestored⟩

/-- The departure of a shift is moved past the calendar: that call stops, but what it has written
stays.  A request can then be bound to the shift, but this cannot be undone. -/
theorem assign_not_undone_past_calendar :
    let stranded := worldAfter 0 ([smallRequest,
      .updateShift 2 ⟨none, some Calendar.DateTime.last⟩].map TimedCall.undisturbed) smallDesk
    IsFresh smallDesk ∧ stranded.IsCalm ∧ ∃ bound, assign 5 2 1 stranded = (.ok none, bound) ∧
      unassign 5 2 1 bound = (.error .timeOverflow, bound) := by
  intro stranded
  have hcalm : stranded.IsCalm := by constructor <;> decide +kernel
  have hnone : (assign 5 2 1 stranded).1 = .ok none := by decide +kernel
  have hready : IsReady stranded := ⟨hcalm, inOrder_worldAfter 0 _ isFresh_smallDesk⟩
  have hassign : assign 5 2 1 stranded = (.ok none, (assign 5 2 1 stranded).2) :=
    Prod.ext hnone rfl
  obtain ⟨hnone, hbound⟩ := hready.of_assign_run (by decide) hassign
  obtain ⟨hready, hundo, -⟩ := hready.restored_of_unassigned hnone ⟨1⟩
  rw [← hbound] at hready hundo
  have hlate : ((assign 5 2 1 stranded).2.tables.shift? 2).all Shift.isReadable = false := by
    decide +kernel
  obtain ⟨s, hs, hunreadable⟩ := (Option.all_eq_false _ _).1 hlate
  have hunassign := hready.unassign_run (by decide : 5 ≤ greatestLockTimeout) hundo hs
  rw [if_neg (Bool.eq_false_iff.1 hunreadable)] at hunassign
  exact ⟨isFresh_smallDesk, hcalm, _, hassign, hunassign⟩

end Desk
end ShuttleDesk
