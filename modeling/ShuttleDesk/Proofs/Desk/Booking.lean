/-
  ShuttleDesk/Proofs/Desk/Booking.lean
  ====================================
  Where a request stands and what it is bound to are kept in two tables, and three
  calls write both.  They agree in every world that calls lead to: a request is bound
  exactly if it is no longer pending, and a published request is bound to a published
  shift.

  The invariant is inductive only together with the constraints of the database.
  Unbinding a request makes it pending, and this is right because a request has one
  binding at most; a new request is pending, and this is right because no binding
  names an id that has not been given out.
-/
import ShuttleDesk.Proofs.Desk.Sound

namespace ShuttleDesk

namespace Tables

/-- The states of requests and shifts agree with the bindings. -/
structure Settled (t : Tables) : Prop where
  pending_iff : ∀ r ∈ t.requests, r.status = .pending ↔ r.id ∉ t.boundIds
  published : ∀ r ∈ t.requests, r.status = .published →
    ∀ s ∈ t.shifts, t.isBound s.id r.id = true → s.status = .published

variable {t : Tables} {now : Calendar.WallClock} {shift request : Int}

/-! ### What is bound after a change -/

theorem boundIds_bind : (t.bind shift request).boundIds = t.boundIds ++ [request] := by
  simp [boundIds, bind]

theorem isBound_bind_of_ne {s r : Int} (hr : r ≠ request) :
    (t.bind shift request).isBound s r = t.isBound s r := by
  rw [Bool.eq_iff_iff, isBound_iff, isBound_iff]
  simp [bind, hr]

theorem isBound_unbind_of_ne {s r : Int} (hr : r ≠ request) :
    (t.unbind shift request).isBound s r = t.isBound s r := by
  rw [Bool.eq_iff_iff, isBound_iff, isBound_iff]
  simp [unbind, hr]

theorem mem_boundIds_iff {r : Int} : r ∈ t.boundIds ↔ ∃ s, t.isBound s r = true := by
  simp only [isBound_iff, boundIds, List.mem_map]
  constructor
  · rintro ⟨b, hb, rfl⟩
    exact ⟨b.shiftId, hb⟩
  · rintro ⟨s, hs⟩
    exact ⟨_, hs, rfl⟩

theorem mem_boundIds_unbind_of_ne {r : Int} (hr : r ≠ request) :
    r ∈ (t.unbind shift request).boundIds ↔ r ∈ t.boundIds := by
  simp only [mem_boundIds_iff, isBound_unbind_of_ne hr]

/-- The one binding of a request is gone once it is unbound. -/
theorem not_mem_boundIds_unbind (h : t.Lawful) (hbound : t.isBound shift request = true) :
    request ∉ (t.unbind shift request).boundIds := by
  intro hmem
  obtain ⟨s, hs⟩ := mem_boundIds_iff.1 hmem
  rw [isBound_iff, unbind, List.mem_filter] at hs
  have hs' : t.isBound s request = true := isBound_iff.2 hs.1
  rw [h.shift_unique hs' hbound] at hs
  simp at hs

theorem requestId_of_mem_boundIds (h : t.Lawful) {r : Int} (hr : r ∈ t.boundIds) :
    r ∈ t.requestIds := by
  obtain ⟨b, hb, rfl⟩ := List.mem_map.1 hr
  exact (h.bindings b hb).2

/-! ### Each change keeps the agreement -/

namespace Settled

theorem addRequest {r : Request} {last : Int} (h : t.Settled) (hl : t.Lawful)
    (hlast : ∀ id ∈ t.requestIds, id ≤ last) (hid : last < r.id) (hpending : r.status = .pending) :
    (t.addRequest r).Settled where
  pending_iff := by
    refine forall_mem_append_one h.pending_iff (iff_of_true hpending ?_)
    intro hbound
    have hle := hlast r.id (requestId_of_mem_boundIds hl hbound)
    omega
  published := by
    refine forall_mem_append_one h.published ?_
    intro hpublished
    rw [hpending] at hpublished
    cases hpublished

theorem editRequests {chosen : Request → Bool} {edit : Request → Request} (h : t.Settled)
    (hid : ∀ r, (edit r).id = r.id) (hstatus : ∀ r, (edit r).status = r.status) :
    (t.editRequests now chosen edit).Settled where
  pending_iff := by
    refine forall_mem_updateWhere h.pending_iff ?_
    intro r hr _
    rw [hid, hstatus]
    exact h.pending_iff r hr
  published := by
    refine forall_mem_updateWhere h.published ?_
    intro r hr _
    rw [hid, hstatus]
    exact h.published r hr

theorem refreshAll (h : t.Settled) (fs : List Flight.Refresh) :
    (t.refreshAll now fs).Settled := by
  refine refreshAll_induction ?_ h
  intro t f _ h
  exact h.editRequests (fun _ => rfl) fun _ => rfl

theorem assign (h : t.Settled) :
    ((t.bind shift request).setStatus now request .assigned).Settled where
  pending_iff := by
    intro r hr
    change r.status = .pending ↔ r.id ∉ (t.bind shift request).boundIds
    rw [boundIds_bind]
    rcases mem_updateWhere.1 hr with ⟨r₀, hr₀, hchosen, rfl⟩ | ⟨hr, hother⟩
    · have hid : r₀.id = request := by simpa using hchosen
      simp [hid]
    · have hid : r.id ≠ request := by simpa using hother
      rw [h.pending_iff r hr]
      simp [hid]
  published := by
    intro r hr hpublished s hs hbound
    rcases mem_updateWhere.1 hr with ⟨r₀, hr₀, hchosen, rfl⟩ | ⟨hr, hother⟩
    · cases hpublished
    · have hid : r.id ≠ request := by simpa using hother
      have hbefore : t.isBound s.id r.id = true := by
        rw [← isBound_bind_of_ne hid]
        exact hbound
      exact h.published r hr hpublished s hs hbefore

theorem unassign (h : t.Settled) (hl : t.Lawful) (hbound : t.isBound shift request = true) :
    ((t.unbind shift request).setStatus now request .pending).Settled where
  pending_iff := by
    intro r hr
    change r.status = .pending ↔ r.id ∉ (t.unbind shift request).boundIds
    rcases mem_updateWhere.1 hr with ⟨r₀, hr₀, hchosen, rfl⟩ | ⟨hr, hother⟩
    · have hid : r₀.id = request := by simpa using hchosen
      refine iff_of_true rfl ?_
      simp only [hid]
      exact not_mem_boundIds_unbind hl hbound
    · have hid : r.id ≠ request := by simpa using hother
      rw [h.pending_iff r hr, mem_boundIds_unbind_of_ne hid]
  published := by
    intro r hr hpublished s hs hafter
    rcases mem_updateWhere.1 hr with ⟨r₀, hr₀, hchosen, rfl⟩ | ⟨hr, hother⟩
    · cases hpublished
    · have hid : r.id ≠ request := by simpa using hother
      have hbefore : t.isBound s.id r.id = true := by
        rw [← isBound_unbind_of_ne hid]
        exact hafter
      exact h.published r hr hpublished s hs hbefore

/-- A request that is published with a shift is bound to no other shift. -/
theorem publish (h : t.Settled) (hl : t.Lawful) :
    ((t.publishShift shift).publishOn now shift).Settled where
  pending_iff := by
    refine forall_mem_updateWhere h.pending_iff ?_
    intro r hr hchosen
    have hmem : r.id ∈ t.boundIds := mem_boundIds_of_isBound hchosen
    exact iff_of_false (by simp) (not_not_intro hmem)
  published := by
    intro r hr hpublished s hs hbound
    rcases mem_updateWhere.1 hs with ⟨s₀, hs₀, hchosen, rfl⟩ | ⟨hs, hother⟩
    · rfl
    rcases mem_updateWhere.1 hr with ⟨r₀, hr₀, hchosen, rfl⟩ | ⟨hr, -⟩
    · have hid : s.id ≠ shift := by simpa using hother
      exact absurd (hl.shift_unique hbound hchosen) hid
    · exact h.published r hr hpublished s hs hbound

theorem addShift {s : Shift} {last : Int} (h : t.Settled) (hl : t.Lawful)
    (hlast : ∀ id ∈ t.shiftIds, id ≤ last) (hid : last < s.id) : (t.addShift s).Settled where
  pending_iff := h.pending_iff
  published := by
    intro r hr hpublished
    refine forall_mem_append_one (h.published r hr hpublished) ?_
    intro hbound
    have hle := hlast s.id (hl.bindings _ (isBound_iff.1 hbound)).1
    omega

theorem editShift {id : Int} {edit : Shift → Shift} (h : t.Settled)
    (hid : ∀ s, (edit s).id = s.id) (hstatus : ∀ s, (edit s).status = s.status) :
    (t.editShift id edit).Settled where
  pending_iff := h.pending_iff
  published := by
    intro r hr hpublished
    refine forall_mem_updateWhere (h.published r hr hpublished) ?_
    intro s hs _
    rw [hid, hstatus]
    exact h.published r hr hpublished s hs

/-- Users, drivers and staff are not looked at. -/
theorem congr {t' : Tables} (h : t.Settled) (hr : t'.requests = t.requests)
    (hs : t'.shifts = t.shifts) (hb : t'.bindings = t.bindings) : t'.Settled := by
  constructor
  · rw [hr]
    unfold boundIds
    rw [hb]
    exact h.pending_iff
  · rw [hr, hs]
    unfold isBound
    rw [hb]
    exact h.published

/-- What is bound is not pending, and the other way round. -/
theorem not_pending_iff (h : t.Settled) {r : Request} (hr : r ∈ t.requests) :
    r.status ≠ .pending ↔ ∃ s, t.isBound s r.id = true := by
  rw [ne_eq, h.pending_iff r hr, not_not, mem_boundIds_iff]

/-- A request that is not pending is on one of the shifts. -/
theorem exists_shift_of_not_pending (h : t.Settled) (hl : t.Lawful) {r : Request}
    (hr : r ∈ t.requests) (hstatus : r.status ≠ .pending) :
    ∃ s ∈ t.shifts, t.isBound s.id r.id = true := by
  obtain ⟨shift, hbound⟩ := (h.not_pending_iff hr).1 hstatus
  obtain ⟨s, hs, rfl⟩ := List.mem_map.1 (hl.bindings _ (isBound_iff.1 hbound)).1
  exact ⟨s, hs, hbound⟩

/-- What is bound is in the table, and it is not pending. -/
theorem exists_request_of_bound (h : t.Settled) (hl : t.Lawful) {b : Binding}
    (hb : b ∈ t.bindings) : ∃ r, t.request? b.requestId = some r ∧ r.status ≠ .pending := by
  obtain ⟨r, hr⟩ := Option.isSome_iff_exists.1 (request?_isSome_iff.2 (hl.bindings b hb).2)
  obtain ⟨hmem, hid⟩ := mem_of_request? hr
  refine ⟨r, hr, ?_⟩
  rw [h.not_pending_iff hmem, hid]
  exact ⟨b.shiftId, isBound_iff.2 hb⟩

end Settled
end Tables

namespace Desk

open Tables

/-- A call keeps states and bindings in agreement, whatever comes of it. -/
theorem Effect.settled {w w' : World} {c : Call} {o : Outcome} (h : Effect w c o w')
    (hw : w.Sound) (ht : w.tables.Settled) : w'.tables.Settled := by
  cases h with
  | stopped kept =>
    rw [kept.tables]
    exact ht
  | draftLeft left => exact ht.addShift hw.lawful hw.within.shifts (Int.lt_succ _)
  | editLeft named left => exact ht.editShift (fun _ => rfl) fun _ => rfl
  | viewed view => exact ht
  | requestMade alone valid dateRead arrivalRead timed storable bags known row =>
    subst row
    exact ht.addRequest hw.lawful hw.within.requests (Int.lt_succ _) rfl
  | detailsSaved owned pending valid changeRead timed storable bags saved =>
    exact ht.editRequests (fun _ => rfl) fun _ => rfl
  | bound found row? pending free shift? => exact ht.assign
  | unbound shift? row? unpublished bound => exact ht.unassign hw.lawful bound
  | shiftMade known row readable =>
    subst row
    exact ht.addShift hw.lawful hw.within.shifts (Int.lt_succ _)
  | shiftEdited named known saved readable => exact ht.editShift (fun _ => rfl) fun _ => rfl
  | published shift? => exact ht.publish hw.lawful
  | staffAdded user? staffLike shift? new => exact ht.congr rfl rfl rfl
  | staffKept user? staffLike old => exact ht
  | staffRemoved shift? => exact ht.congr rfl rfl rfl
  | driverMade valid limits => exact ht.congr rfl rfl rfl
  | driverEdited valid known limits => exact ht.congr rfl rfl rfl
  | madeStaff noAdmin saved => exact ht.congr rfl rfl rfl
  | madeStudent noAdmin saved => exact ht.congr rfl rfl rfl
  | syncSkipped unset => exact ht
  | synced set inCalendar => exact ht.refreshAll _

theorem IsFresh.settled {w : World} (h : IsFresh w) : w.tables.Settled := by
  constructor <;> simp [h.noRequests]

/-- The constraints and the agreement hold in every world that calls lead to. -/
theorem settled_worldAfter (timeout : Int) (cs : List TimedCall) {w : World} (h : IsFresh w) :
    (worldAfter timeout cs w).Sound ∧ (worldAfter timeout cs w).tables.Settled := by
  apply worldAfter_induction (p := fun w => w.Sound ∧ w.tables.Settled)
  · intro w m ⟨hw, ht⟩
    exact ⟨⟨hw.lawful, hw.within⟩, ht⟩
  · intro w w' c o heffect ⟨hw, ht⟩
    exact ⟨heffect.sound hw, heffect.settled hw ht⟩
  · exact ⟨h.sound, h.settled⟩

/-! ### What riders and operators rely on -/

/-- What two tables say about a request fits together, and every row that is named exists. -/
structure Consistent (t : Tables) : Prop where
  bound_iff : ∀ r ∈ t.requests, (∃ s, t.isBound s r.id = true) ↔ r.status ≠ .pending
  bound_once : ∀ request, (t.bindingsOf request).length ≤ 1
  published_on : ∀ r ∈ t.requests, r.status = .published →
    ∃ s ∈ t.shifts, s.status = .published ∧ t.isBound s.id r.id = true
  draft_carries : ∀ s ∈ t.shifts, s.status = .draft →
    ∀ r ∈ t.requestsOn s.id, r.status ≠ .published
  binding_ends : ∀ b ∈ t.bindings,
    (t.shift? b.shiftId).isSome = true ∧ (t.request? b.requestId).isSome = true
  staffing_ends : ∀ b ∈ t.staffings,
    (t.shift? b.shiftId).isSome = true ∧ (t.user? b.staffId).isSome = true
  driven : ∀ s ∈ t.shifts, (t.driver? s.driverId).isSome = true

theorem length_bindingsOf_le_one {t : Tables} (hl : t.Lawful) (request : Int) :
    (t.bindingsOf request).length ≤ 1 := by
  have hnodup : ((t.bindingsOf request).map (·.requestId)).Nodup :=
    (List.filter_sublist.map _).nodup hl.boundOnce
  have hall : ∀ id ∈ (t.bindingsOf request).map (·.requestId), id = request := by
    intro id hid
    obtain ⟨b, hb, rfl⟩ := List.mem_map.1 hid
    simpa using (List.mem_filter.1 hb).2
  have hle : ((t.bindingsOf request).map (·.requestId)).length ≤ 1 := by
    rw [List.eq_replicate_of_mem hall] at hnodup ⊢
    simpa [List.nodup_replicate] using hnodup
  simpa using hle

theorem consistent_of_settled {t : Tables} (hl : t.Lawful) (ht : t.Settled) : Consistent t where
  bound_iff r hr := (ht.not_pending_iff hr).symm
  bound_once := length_bindingsOf_le_one hl
  published_on := by
    intro r hr hpublished
    have hstatus : r.status ≠ .pending := by
      rw [hpublished]
      exact RequestStatus.noConfusion
    obtain ⟨s, hs, hbound⟩ := ht.exists_shift_of_not_pending hl hr hstatus
    exact ⟨s, hs, ht.published r hr hpublished s hs hbound, hbound⟩
  draft_carries := by
    intro s hs hdraft r hr hpublished
    obtain ⟨hr, hbound⟩ := List.mem_filter.1 hr
    rw [ht.published r hr hpublished s hs hbound] at hdraft
    cases hdraft
  binding_ends b hb :=
    ⟨shift?_isSome_iff.2 (hl.bindings b hb).1, request?_isSome_iff.2 (hl.bindings b hb).2⟩
  staffing_ends b hb :=
    ⟨shift?_isSome_iff.2 (hl.staffings b hb).1, user?_isSome_iff.2 (hl.staffings b hb).2⟩
  driven s hs := driver?_isSome_iff.2 (hl.driven s hs)

/-- Any calls, made one after the other, each at its own moment and each going through or
failing, lead from a fresh desk to a consistent one. -/
theorem consistent_after_calls (timeout : Int) (cs : List TimedCall) (w : World) (h : IsFresh w) :
    Consistent (worldAfter timeout cs w).tables := by
  obtain ⟨hw, ht⟩ := settled_worldAfter timeout cs h
  exact consistent_of_settled hw.lawful ht

/-- A request is made and bound. -/
def booking : List TimedCall := [smallRequest, .assign 2 1].map TimedCall.undisturbed

/-- A request is made, bound and published. -/
def publication : List TimedCall :=
  [smallRequest, .assign 2 1, .publishShift 2].map TimedCall.undisturbed

theorem consistent_after_publication :
    IsFresh smallDesk ∧
      (worldAfter 0 publication smallDesk).tables.requests.map (·.status) = [.published] ∧
      Consistent (worldAfter 0 publication smallDesk).tables :=
  ⟨isFresh_smallDesk, by decide +kernel,
    consistent_after_calls 0 publication smallDesk isFresh_smallDesk⟩

end Desk
end ShuttleDesk
