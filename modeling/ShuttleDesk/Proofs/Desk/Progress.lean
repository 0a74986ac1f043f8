/-
  ShuttleDesk/Proofs/Desk/Progress.lean
  =====================================
  What time does to the rows of the desk.  No row ever goes away, and a request keeps
  its id, its rider and its date of creation.  Its state moves along three edges, and
  each edge belongs to one call: binding and unbinding go back and forth between pending
  and assigned, and publishing the shift that it is bound to ends this for good.  From
  then on only the stamp of the row may change.

  Four writers touch a request and each keeps away from published rows in its own way:
  edits and bindings ask for a pending row, unbinding for one that is not published,
  a refresh reaches open rows only, and publishing a published row writes what is there.

  A refresh may also be written by itself, outside of a pass over the flights; so the
  steps of a run are calls and single refreshes.
-/
import Mathlib.Data.List.Infix
import ShuttleDesk.Proofs.Desk.BindingHistory

namespace ShuttleDesk

/-- What a request may become: the same request, and the same row but for its stamp once it is
published. -/
structure Request.Becomes (r r' : Request) : Prop where
  id : r'.id = r.id
  userId : r'.userId = r.userId
  createdAt : r'.createdAt = r.createdAt
  published : r.status = .published → r' = { r with updatedAt := r'.updatedAt }

namespace Request.Becomes

variable {a b c : Request}

theorem refl (r : Request) : r.Becomes r := ⟨rfl, rfl, rfl, fun _ => rfl⟩

theorem status_of_published (h : a.Becomes b) (ha : a.status = .published) :
    b.status = .published := by
  rw [h.published ha]
  exact ha

theorem trans (h : a.Becomes b) (k : b.Becomes c) : a.Becomes c where
  id := k.id.trans h.id
  userId := k.userId.trans h.userId
  createdAt := k.createdAt.trans h.createdAt
  published := by
    intro ha
    have hc := k.published (h.status_of_published ha)
    rw [h.published ha] at hc
    exact hc

end Request.Becomes

namespace Tables

/-- How tables go on: no row is gone, requests become what they may, a published shift stays
published, and what a published request is bound to stays as it is. -/
structure Continues (t t' : Tables) : Prop where
  users : t.userIds <+: t'.userIds
  drivers : t.driverIds <+: t'.driverIds
  requests : t.requestIds <+: t'.requestIds
  shifts : t.shiftIds <+: t'.shiftIds
  request : ∀ r ∈ t.requests, ∃ r' ∈ t'.requests, r.Becomes r'
  shift : ∀ s ∈ t.shifts, ∃ s' ∈ t'.shifts, s'.id = s.id ∧
    (s.status = .published → s'.status = .published)
  binding : ∀ r ∈ t.requests, r.status = .published → t'.bindingsOf r.id = t.bindingsOf r.id

variable {t t' : Tables} {now : Calendar.WallClock} {id shift request : Int}

/-! ### Rows that are changed in place -/

section Rows

variable {α : Type} {rows : List α} {chosen : α → Bool} {change : α → α} {R : α → α → Prop}

theorem exists_of_mem_updateWhere (hrefl : ∀ a, R a a)
    (hchange : ∀ a ∈ rows, chosen a = true → R a (change a)) :
    ∀ a ∈ rows, ∃ b ∈ updateWhere chosen change rows, R a b := by
  intro a ha
  by_cases hc : chosen a = true
  · exact ⟨change a, mem_updateWhere.2 (.inl ⟨a, ha, hc, rfl⟩), hchange a ha hc⟩
  · exact ⟨a, mem_updateWhere.2 (.inr ⟨ha, by simpa using hc⟩), hrefl a⟩

theorem exists_of_mem_append (hrefl : ∀ a, R a a) (more : List α) :
    ∀ a ∈ rows, ∃ b ∈ rows ++ more, R a b := by
  intro a ha
  exact ⟨a, List.mem_append_left _ ha, hrefl a⟩

end Rows

namespace Continues

theorem refl (t : Tables) : t.Continues t where
  users := List.prefix_refl _
  drivers := List.prefix_refl _
  requests := List.prefix_refl _
  shifts := List.prefix_refl _
  request r hr := ⟨r, hr, .refl r⟩
  shift s hs := ⟨s, hs, rfl, fun h => h⟩
  binding _ _ _ := rfl

theorem trans {u : Tables} (h : t.Continues t') (k : t'.Continues u) : t.Continues u where
  users := h.users.trans k.users
  drivers := h.drivers.trans k.drivers
  requests := h.requests.trans k.requests
  shifts := h.shifts.trans k.shifts
  request := by
    intro r hr
    obtain ⟨r', hr', hbecomes⟩ := h.request r hr
    obtain ⟨r'', hr'', hbecomes'⟩ := k.request r' hr'
    exact ⟨r'', hr'', hbecomes.trans hbecomes'⟩
  shift := by
    intro s hs
    obtain ⟨s', hs', hid, hpublished⟩ := h.shift s hs
    obtain ⟨s'', hs'', hid', hpublished'⟩ := k.shift s' hs'
    exact ⟨s'', hs'', hid'.trans hid, fun hs => hpublished' (hpublished hs)⟩
  binding := by
    intro r hr hpublished
    obtain ⟨r', hr', hbecomes⟩ := h.request r hr
    have hlater := k.binding r' hr' (hbecomes.status_of_published hpublished)
    rw [hbecomes.id] at hlater
    exact hlater.trans (h.binding r hr hpublished)

/-- Tables in which users, drivers or staff have changed go on like before. -/
theorem of_same (hu : t.userIds <+: t'.userIds) (hd : t.driverIds <+: t'.driverIds)
    (hr : t'.requests = t.requests) (hs : t'.shifts = t.shifts)
    (hb : t'.bindings = t.bindings) : t.Continues t' where
  users := hu
  drivers := hd
  requests := by
    simp only [requestIds, hr]
    exact List.prefix_refl _
  shifts := by
    simp only [shiftIds, hs]
    exact List.prefix_refl _
  request r hr' := ⟨r, hr ▸ hr', .refl r⟩
  shift s hs' := ⟨s, hs ▸ hs', rfl, fun h => h⟩
  binding r _ _ := by
    unfold bindingsOf
    rw [hb]

theorem addRequest (r : Request) : t.Continues (t.addRequest r) where
  __ := refl t
  requests := by
    simp only [requestIds, Tables.addRequest, List.map_append]
    exact List.prefix_append _ _
  request := exists_of_mem_append .refl [r]

theorem editRequests {chosen : Request → Bool} {edit : Request → Request}
    (hedit : ∀ r ∈ t.requests, chosen r = true → r.Becomes { edit r with updatedAt := now }) :
    t.Continues (t.editRequests now chosen edit) where
  __ := refl t
  requests := by
    have hids : (t.editRequests now chosen edit).requestIds = t.requestIds :=
      map_updateWhere fun r hr hc => (hedit r hr hc).id
    rw [hids]
  request := exists_of_mem_updateWhere .refl hedit

theorem addShift (s : Shift) : t.Continues (t.addShift s) where
  __ := refl t
  shifts := by
    simp only [shiftIds, Tables.addShift, List.map_append]
    exact List.prefix_append _ _
  shift := exists_of_mem_append (fun _ => ⟨rfl, fun h => h⟩) [s]

theorem editShift {edit : Shift → Shift} (hid : ∀ s, (edit s).id = s.id)
    (hstatus : ∀ s, s.status = .published → (edit s).status = .published) :
    t.Continues (t.editShift id edit) where
  __ := refl t
  shifts := by
    rw [shiftIds_editShift hid]
  shift := exists_of_mem_updateWhere (fun _ => ⟨rfl, fun h => h⟩) fun s _ _ => ⟨hid s, hstatus s⟩

/-- Binding another request leaves the bindings of a published one alone. -/
theorem bind (h : ∀ r ∈ t.requests, r.status = .published → request ≠ r.id) :
    t.Continues (t.bind shift request) where
  __ := refl t
  binding r hr hpublished := by simp [bindingsOf, Tables.bind, h r hr hpublished]

theorem unbind (h : ∀ r ∈ t.requests, r.status = .published → request ≠ r.id) :
    t.Continues (t.unbind shift request) where
  __ := refl t
  binding r hr hpublished := by
    have hne := h r hr hpublished
    simp only [bindingsOf, Tables.unbind, List.filter_filter]
    apply List.filter_congr
    rintro ⟨s, r'⟩ _
    by_cases hr' : r' = r.id
    · subst hr'
      simp [hne.symm]
    · simp [hr']

theorem setStatus {status : RequestStatus}
    (h : ∀ r ∈ t.requests, r.status = .published → request ≠ r.id) :
    t.Continues (t.setStatus now request status) := by
  apply editRequests
  intro r hr hchosen
  have hid : request = r.id := (beq_iff_eq.1 hchosen).symm
  exact ⟨rfl, rfl, rfl, fun hpublished => absurd hid (h r hr hpublished)⟩

theorem editDetails {details : Request}
    (h : ∀ r ∈ t.requests, r.status = .published → details.id ≠ r.id) :
    t.Continues (t.editDetails now details) := by
  apply editRequests
  intro r hr hchosen
  have hid : details.id = r.id := (beq_iff_eq.1 hchosen).symm
  exact ⟨rfl, rfl, rfl, fun hpublished => absurd hid (h r hr hpublished)⟩

/-- A request that is published already is published again, which writes what is there. -/
theorem publish : t.Continues ((t.publishShift shift).publishOn now shift) := by
  have hshift : t.Continues (t.publishShift shift) := editShift (fun _ => rfl) fun _ _ => rfl
  refine hshift.trans (editRequests ?_)
  intro r _ _
  refine ⟨rfl, rfl, rfl, fun hpublished => ?_⟩
  simp only [← hpublished]

/-- A refresh does not reach a published request. -/
theorem refresh (f : Flight.Refresh) : t.Continues (t.refresh now f) := by
  apply editRequests
  intro r _ hchosen
  refine ⟨rfl, rfl, rfl, fun hpublished => ?_⟩
  simp [Flight.Refresh.reaches, awaitsFlight, RequestStatus.isOpen, hpublished] at hchosen

theorem refreshAll (fs : List Flight.Refresh) : t.Continues (t.refreshAll now fs) := by
  refine refreshAll_induction ?_ (.refl t)
  intro u f _ h
  exact h.trans (refresh f)

end Continues

/-- What is found and not published has another id than the published requests. -/
theorem ne_of_published (hl : t.Lawful) {row : Request} (hrow : t.request? request = some row)
    (hstatus : row.status ≠ .published) :
    ∀ r ∈ t.requests, r.status = .published → request ≠ r.id := by
  intro r hr hpublished
  have hp : t.IsPublished r.id := ⟨r, hl.request?_of_mem hr, hpublished⟩
  exact hp.ne_of_request? hrow hstatus

end Tables

namespace Desk

open Procedure Tables

/-! ### One call -/

theorem Effect.continues {w w' : World} {c : Call} {o : Outcome} (h : Effect w c o w')
    (hw : w.Sound) : w.tables.Continues w'.tables := by
  cases h with
  | stopped kept =>
    rw [kept.tables]
    exact .refl _
  | draftLeft left => exact .addShift _
  | editLeft named left => exact .editShift (fun _ => rfl) fun _ h => h
  | viewed view => exact .refl _
  | requestMade => exact .addRequest _
  | detailsSaved owned pending valid changeRead timed =>
    apply Continues.editDetails
    obtain ⟨hrow, -⟩ := Option.filter_eq_some_iff.1 owned
    rw [RequestChange.after?_id timed, (mem_of_request? hrow).2]
    exact ne_of_published hw.lawful hrow (by simp [pending])
  | bound found row? pending =>
    have hne := ne_of_published hw.lawful row? (by simp [pending])
    exact (Continues.bind hne).trans (.setStatus hne)
  | unbound shift? row? unpublished bound =>
    have hne := ne_of_published hw.lawful row? unpublished
    exact (Continues.unbind hne).trans (.setStatus hne)
  | shiftMade => exact .addShift _
  | shiftEdited => exact .editShift (fun _ => rfl) fun _ h => h
  | published shift? => exact .publish
  | staffAdded => exact .of_same (List.prefix_refl _) (List.prefix_refl _) rfl rfl rfl
  | staffKept => exact .refl _
  | staffRemoved => exact .of_same (List.prefix_refl _) (List.prefix_refl _) rfl rfl rfl
  | driverMade =>
    refine .of_same (List.prefix_refl _) ?_ rfl rfl rfl
    simp [driverIds, addDriver]
  | driverEdited =>
    refine .of_same (List.prefix_refl _) ?_ rfl rfl rfl
    rw [World.withTables_tables, driverIds_setDriver]
  | madeStaff =>
    refine .of_same ?_ (List.prefix_refl _) rfl rfl rfl
    rw [World.withTables_tables, userIds_setRole]
  | madeStudent =>
    refine .of_same ?_ (List.prefix_refl _) rfl rfl rfl
    rw [World.withTables_tables, userIds_setRole]
  | syncSkipped => exact .refl _
  | synced => exact .refreshAll _

/-- How the state of a request may move in a call.  Each move belongs to one call that goes
through, and only the shift that a request is bound to publishes it. -/
inductive StatusMove (t : Tables) (request : Int) :
    Call → Outcome → RequestStatus → RequestStatus → Prop where
  | stays {c : Call} {o : Outcome} {s : RequestStatus} : StatusMove t request c o s s
  | bound {shift : Int} {a : Answer} :
      StatusMove t request (.assign shift request) (.ok a) .pending .assigned
  | unbound {shift : Int} {a : Answer} :
      StatusMove t request (.unassign shift request) (.ok a) .assigned .pending
  | published {shift : Int} {a : Answer} (on : t.isBound shift request = true) :
      StatusMove t request (.publishShift shift) (.ok a) .assigned .published

theorem StatusMove.of_eq {t : Tables} {id : Int} {c : Call} {o : Outcome} {a b : RequestStatus}
    (h : b = a) : StatusMove t id c o a b := by
  rw [h]
  exact .stays

/-- The row with an id after an edit of rows. -/
theorem eq_of_request?_editRequests {t : Tables} {now : Calendar.WallClock} {id : Int}
    {chosen : Request → Bool} (edit : Request → Request) (hid : ∀ r, (edit r).id = r.id)
    {r r' : Request} (hr : t.request? id = some r)
    (hr' : (t.editRequests now chosen edit).request? id = some r') :
    r' = if chosen r then { edit r with updatedAt := now } else r := by
  rw [request?_editRequests hid, hr, Option.map_some, Option.some.injEq] at hr'
  exact hr'.symm

theorem status_of_setStatus {t : Tables} {now : Calendar.WallClock} {id request : Int}
    {status : RequestStatus} {r r' : Request} (hr : t.request? id = some r)
    (hr' : (t.setStatus now request status).request? id = some r') :
    r'.status = if id = request then status else r.status := by
  rw [eq_of_request?_editRequests (fun r => { r with status }) (fun _ => rfl) hr hr',
    (mem_of_request? hr).2]
  by_cases h : id = request <;> simp [h]

theorem status_of_refreshAll {t : Tables} {now : Calendar.WallClock} {id : Int}
    (fs : List Flight.Refresh) {r r' : Request} (hr : t.request? id = some r)
    (hr' : (t.refreshAll now fs).request? id = some r') : r'.status = r.status := by
  rw [request?_refreshAll, hr, Option.map_some, Option.some.injEq] at hr'
  rw [← hr']
  exact Requests.refreshed_column (·.status) (fun _ _ => rfl) fs r

/-- A call moves the state of a request along one of the edges, or leaves it. -/
theorem Effect.statusMove {w w' : World} {c : Call} {o : Outcome} (h : Effect w c o w')
    (ht : w.tables.Settled) {id : Int} {r r' : Request} (hr : w.tables.request? id = some r)
    (hr' : w'.tables.request? id = some r') :
    StatusMove w.tables id c o r.status r'.status := by
  obtain ⟨hmem, hid⟩ := mem_of_request? hr
  -- where the table of requests is not touched, the row is the same
  have hsame : w'.tables.request? id = w.tables.request? id →
      StatusMove w.tables id c o r.status r'.status := by
    intro heq
    rw [hr', hr, Option.some.injEq] at heq
    exact .of_eq (congrArg _ heq)
  -- what is bound is not pending
  have hnotPending : ∀ shift, w.tables.isBound shift id = true → r.status ≠ .pending := by
    intro shift hbound
    exact (ht.not_pending_iff hmem).2 ⟨shift, by rw [hid]; exact hbound⟩
  cases h with
  | stopped kept => exact hsame (by rw [kept.tables])
  | requestMade =>
    apply hsame
    simp only [World.withTables_tables, request?, addRequest, List.find?_append]
    rw [← request?, hr]
    rfl
  | @detailsSaved rider request edit change row after =>
    apply StatusMove.of_eq
    rw [eq_of_request?_editRequests (Requests.withDetails after) (fun _ => rfl) hr hr']
    split <;> rfl
  | @bound shift request locked row found row? pending =>
    have hstatus := status_of_setStatus (t := w.tables.bind shift request) hr hr'
    by_cases hrequest : id = request
    · subst hrequest
      rw [hr, Option.some.injEq] at row?
      rw [if_pos rfl] at hstatus
      rw [hstatus, row?, pending]
      exact .bound
    · rw [if_neg hrequest] at hstatus
      exact .of_eq hstatus
  | @unbound shift request s row shift? row? unpublished bound =>
    have hstatus := status_of_setStatus (t := w.tables.unbind shift request) hr hr'
    by_cases hrequest : id = request
    · subst hrequest
      rw [hr, Option.some.injEq] at row?
      have hassigned : r.status = .assigned := by
        have hpending := hnotPending shift bound
        subst row?
        cases hs : r.status with
        | pending => exact absurd hs hpending
        | assigned => rfl
        | published => exact absurd hs unpublished
      rw [if_pos rfl] at hstatus
      rw [hstatus, hassigned]
      exact .unbound
    · rw [if_neg hrequest] at hstatus
      exact .of_eq hstatus
  | @published shift s shift? =>
    have hrow := eq_of_request?_editRequests (t := w.tables.publishShift shift)
      (fun r => { r with status := .published }) (fun _ => rfl) hr hr'
    by_cases hbound : w.tables.isBound shift id = true
    · have hstatus : r'.status = .published := by
        have hchosen : (w.tables.publishShift shift).isBound shift r.id = true := by
          rw [hid]
          exact hbound
        rw [hrow, if_pos hchosen]
      rw [hstatus]
      cases hs : r.status with
      | pending => exact absurd hs (hnotPending shift hbound)
      | assigned => exact .published hbound
      | published => exact .stays
    · have hchosen : ¬ (w.tables.publishShift shift).isBound shift r.id = true := by
        rw [hid]
        exact hbound
      rw [if_neg hchosen] at hrow
      exact .of_eq (congrArg _ hrow)
  | synced => exact .of_eq (status_of_refreshAll _ hr hr')
  | _ => exact hsame rfl

/-! ### Runs of calls and refreshes -/

/-- A step of a run: a call, or a refresh that is written by itself. -/
inductive Step where
  | call (c : TimedCall)
  | refresh (m : Moment) (f : Flight.Refresh)

/-- The world after a step.  A refresh that cannot be written changes nothing. -/
def Step.after (timeout : Int) (w : World) : Step → World
  | .call c => (c.make timeout w).after
  | .refresh m f => (transaction (Requests.applyRefresh f) (w.atMoment m)).2

/-- The world after some steps. -/
def afterSteps (timeout : Int) (steps : List Step) (w : World) : World :=
  steps.foldl (Step.after timeout) w

/-- How a step may move the state of a request: a call along the edges, a refresh not at all. -/
def Step.Moves (timeout : Int) (w : World) (request : Int) (a b : RequestStatus) : Step → Prop
  | .call c => StatusMove w.tables request c.call (c.make timeout w).outcome a b
  | .refresh _ _ => b = a

/-- A refresh that stands alone is written onto the rows that it reaches, or nothing happens. -/
theorem tables_of_applyRefresh (f : Flight.Refresh) (w : World) :
    ∃ fs, (transaction (Requests.applyRefresh f) w).2.tables = w.tables.refreshAll w.now fs := by
  rcases h : transaction (Requests.applyRefresh f) w with ⟨e | n, w'⟩
  · exact ⟨[], tables_of_transaction_error h⟩
  · obtain ⟨-, -, -, -, rfl⟩ := Requests.applyRefresh_ok_iff.1 (transaction_ok_iff.1 h)
    exact ⟨[f], rfl⟩

/-- A step keeps the constraints and the agreement of states and bindings. -/
theorem Step.keeps (timeout : Int) (s : Step) {w : World} (hw : w.Sound) (ht : w.tables.Settled) :
    (s.after timeout w).Sound ∧ (s.after timeout w).tables.Settled := by
  cases s with
  | call c =>
    have heffect := c.make_effect timeout w
    have hmoment : (w.atMoment c.moment).Sound := ⟨hw.lawful, hw.within⟩
    exact ⟨heffect.sound hmoment, heffect.settled hmoment ht⟩
  | refresh m f =>
    obtain ⟨fs, hfs⟩ := tables_of_applyRefresh f (w.atMoment m)
    have hissued : (Step.after timeout w (.refresh m f)).issued = w.issued :=
      (Requests.keeps_applyRefresh f).transaction (w.atMoment m)
    have htables : (Step.after timeout w (.refresh m f)).tables
        = w.tables.refreshAll m.now fs := hfs
    refine ⟨⟨?_, ?_⟩, ?_⟩
    · rw [htables]
      exact hw.lawful.refreshAll fs
    · rw [htables, hissued]
      exact hw.within.of_sameIds (sameIds_refreshAll fs) (.refl _)
    · rw [htables]
      exact ht.refreshAll fs

theorem Step.continues (timeout : Int) (s : Step) {w : World} (hw : w.Sound) :
    w.tables.Continues (s.after timeout w).tables := by
  cases s with
  | call c =>
    have hmoment : (w.atMoment c.moment).Sound := ⟨hw.lawful, hw.within⟩
    exact (c.make_effect timeout w).continues hmoment
  | refresh m f =>
    obtain ⟨fs, hfs⟩ := tables_of_applyRefresh f (w.atMoment m)
    rw [Step.after, hfs]
    exact .refreshAll fs

theorem Step.moves (timeout : Int) (s : Step) {w : World} (ht : w.tables.Settled) {id : Int}
    {r r' : Request} (hr : w.tables.request? id = some r)
    (hr' : (s.after timeout w).tables.request? id = some r') :
    s.Moves timeout w id r.status r'.status := by
  cases s with
  | call c => exact (c.make_effect timeout w).statusMove ht hr hr'
  | refresh m f =>
    obtain ⟨fs, hfs⟩ := tables_of_applyRefresh f (w.atMoment m)
    rw [Step.after, hfs] at hr'
    exact status_of_refreshAll fs hr hr'

theorem keeps_afterSteps (timeout : Int) (steps : List Step) {w : World} (hw : w.Sound)
    (ht : w.tables.Settled) :
    (afterSteps timeout steps w).Sound ∧ (afterSteps timeout steps w).tables.Settled := by
  induction steps generalizing w with
  | nil => exact ⟨hw, ht⟩
  | cons s steps ih =>
    obtain ⟨hw', ht'⟩ := s.keeps timeout hw ht
    exact ih hw' ht'

theorem continues_afterSteps (timeout : Int) (steps : List Step) {w : World} (hw : w.Sound)
    (ht : w.tables.Settled) : w.tables.Continues (afterSteps timeout steps w).tables := by
  induction steps generalizing w with
  | nil => exact .refl _
  | cons s steps ih =>
    obtain ⟨hw', ht'⟩ := s.keeps timeout hw ht
    exact (s.continues timeout hw).trans (ih hw' ht')

/-- Whatever steps lead from a fresh desk to a world and from there further on: no row is gone, a
request is still the same request, a published one is still the same row and bound to the same
shift, and a published shift is still published.  And whatever step is next, the state of a request
moves along one of the edges, by the call that belongs to it, or not at all. -/
theorem rows_continue_in_runs (timeout : Int) (before further : List Step) (w : World)
    (h : IsFresh w) :
    let u := afterSteps timeout before w
    u.tables.Continues (afterSteps timeout further u).tables ∧
    ∀ (next : Step) (id : Int) (r r' : Request), u.tables.request? id = some r →
      (next.after timeout u).tables.request? id = some r' →
      next.Moves timeout u id r.status r'.status := by
  intro u
  obtain ⟨hw, ht⟩ := keeps_afterSteps timeout before h.sound h.settled
  refine ⟨continues_afterSteps timeout further hw ht, ?_⟩
  intro next id r r' hr hr'
  exact next.moves timeout ht hr hr'

/-- A refresh of the flight of the small request. -/
def smallRefresh : Flight.Refresh :=
  ⟨"CA1", arrivalDay, "T2", ⟨arrivalDay, 12, 0, 0, by decide⟩, 45,
    ⟨arrivalDay, 12, 45, 0, by decide⟩⟩

/-- A request is bound to a shift, and then the shift is published.  A refresh would have reached
the request before; afterwards it does not, and what else is tried fails. -/
theorem rows_continue_after_publication :
    let refresh := Step.refresh ⟨⟨0⟩, [], [], true⟩ smallRefresh
    let publish := Step.call (.undisturbed (.publishShift 2))
    let bound := afterSteps 0 ([smallRequest, .assign 2 1].map fun c => .call (.undisturbed c)) smallDesk
    let later := afterSteps 0 (publish :: refresh :: afterwards.map .call) bound
    IsFresh smallDesk ∧
    (refresh.after 0 bound).tables.requests.map (·.terminal) = ["T2"] ∧
    later.tables.requests.map (fun r => (r.status, r.terminal)) = [(.published, "T5")] ∧
    bound.tables.Continues later.tables ∧
    publish.Moves 0 bound 1 .assigned .published := by
  intro refresh publish bound later
  have h := rows_continue_in_runs 0 ([smallRequest, .assign 2 1].map fun c => .call (.undisturbed c))
    (publish :: refresh :: afterwards.map .call) smallDesk isFresh_smallDesk
  have hbefore : (bound.tables.request? 1).map (·.status) = some .assigned := by decide +kernel
  have hafter : ((publish.after 0 bound).tables.request? 1).map (·.status) = some .published := by
    decide +kernel
  obtain ⟨r, hr, hassigned⟩ := Option.map_eq_some_iff.1 hbefore
  obtain ⟨r', hr', hpublished⟩ := Option.map_eq_some_iff.1 hafter
  refine ⟨isFresh_smallDesk, by decide +kernel, by decide +kernel, h.1, ?_⟩
  rw [← hassigned, ← hpublished]
  exact h.2 publish 1 r r' hr hr'

end Desk
end ShuttleDesk
