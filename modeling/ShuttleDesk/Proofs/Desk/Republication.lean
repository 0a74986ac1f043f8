/-
  ShuttleDesk/Proofs/Desk/Republication.lean
  ==========================================
  Publishing a shift that is published already.  It is meant to publish the requests
  that were bound since, to count those, and to leave everything else as it is.

  The statement that publishes the requests of a shift does not look at their states: it
  writes every request bound to the shift and counts them all.  So nothing but the
  requests of the shift is written, and each of them is published in the end; but those
  that were published before are stamped again and counted again.  The law that is meant
  holds exactly if there are none of them, and after a publication it holds exactly if
  nothing is bound.
-/
import ShuttleDesk.Proofs.Desk.Booking

namespace ShuttleDesk

namespace Tables

variable {t : Tables} {now later : Calendar.WallClock} {shift : Int}

/-- A published shift is not changed by being published. -/
theorem publishShift_eq_self {s : Shift} (hl : t.Lawful) (hs : t.shift? shift = some s)
    (hpublished : s.status = .published) : t.publishShift shift = t := by
  obtain ⟨hmem, hid⟩ := mem_of_shift? hs
  have hself : ∀ s' ∈ t.shifts, (s'.id == shift) = true →
      { s' with status := ShiftStatus.published } = s' := by
    intro s' hs' hid'
    have hsame : s' = s := by
      apply List.inj_on_of_nodup_map (nodup_of_ascending hl.shifts) hs' hmem
      rw [beq_iff_eq.1 hid', hid]
    subst hsame
    rw [← hpublished]
  unfold publishShift editShift
  rw [updateWhere_eq_self hself]

theorem requestsOn_publishOn :
    (t.publishOn now shift).requestsOn shift =
      (t.requestsOn shift).map fun r => { r with status := .published, updatedAt := now } :=
  filter_updateWhere fun _ => rfl

/-- Of two publications of a shift the second stamps what the first has stamped. -/
theorem publishOn_publishOn :
    (t.publishOn now shift).publishOn later shift = t.publishOn later shift := by
  have hrows : ((t.publishOn now shift).publishOn later shift).requests
      = (t.publishOn later shift).requests :=
    updateWhere_updateWhere (fun _ => rfl) (fun _ => rfl)
  exact congrArg (fun rows => { t with requests := rows }) hrows

/-- The requests of a shift that are not published yet. -/
def newOn (t : Tables) (shift : Int) : List Request :=
  (t.requestsOn shift).filter (·.status ≠ .published)

/-- Publishing a shift again is meant to publish and to count the new requests of the shift,
and to leave everything else as it is. -/
structure PublishesNew (t t' : Tables) (now : Calendar.WallClock) (shift : Int) (n : Nat) :
    Prop where
  written : t' = t.editRequests now (· ∈ t.newOn shift) fun r => { r with status := .published }
  counted : n = (t.newOn shift).length

theorem newOn_eq_self_iff :
    t.newOn shift = t.requestsOn shift ↔ ∀ r ∈ t.requestsOn shift, r.status ≠ .published := by
  unfold newOn
  rw [List.filter_eq_self]
  simp only [decide_eq_true_eq]

/-- Publishing every request of the shift is what is meant if and only if all are new. -/
theorem publishesNew_publishOn_iff :
    t.PublishesNew (t.publishOn now shift) now shift (t.requestsOn shift).length ↔
      ∀ r ∈ t.requestsOn shift, r.status ≠ .published := by
  rw [← newOn_eq_self_iff]
  constructor
  · rintro ⟨-, hcount⟩
    exact List.filter_sublist.eq_of_length hcount.symm
  · intro hnew
    have hchosen : ∀ r ∈ t.requests, t.isBound shift r.id = decide (r ∈ t.newOn shift) := by
      intro r hr
      rw [hnew, requestsOn, Bool.eq_iff_iff]
      simp [hr]
    constructor
    case written =>
      unfold publishOn editRequests
      rw [updateWhere_congr hchosen]
    case counted => rw [hnew]

/-- After a publication everything that is bound is published. -/
theorem publishesNew_again_iff :
    (t.publishOn now shift).PublishesNew (t.publishOn later shift) later shift
        (t.requestsOn shift).length ↔
      t.requestsOn shift = [] := by
  have hcount : ((t.publishOn now shift).requestsOn shift).length
      = (t.requestsOn shift).length := by
    rw [requestsOn_publishOn, List.length_map]
  have htwice : t.publishOn later shift = (t.publishOn now shift).publishOn later shift :=
    publishOn_publishOn.symm
  rw [← hcount, htwice, publishesNew_publishOn_iff, requestsOn_publishOn,
    List.eq_nil_iff_forall_not_mem]
  constructor
  · intro hnew r hr
    exact hnew _ (List.mem_map_of_mem hr) rfl
  · intro hnone r hr
    obtain ⟨r', hr', -⟩ := List.mem_map.1 hr
    exact absurd hr' (hnone r')

end Tables

namespace Desk

/-- Nothing is in the way of publishing a shift that is there: the store is open, the waiting
time can be set, the shift can be read, and neither it nor its requests are held. -/
structure CanPublish (timeout : Int) (w : World) (s : Shift) : Prop where
  isOpen : w.isOpen = true
  timeout : timeout ≤ Statement.greatestLockTimeout
  shift : Shifts.IsFree w s
  requests : Requests.AreFree w fun r => w.tables.isBound s.id r.id

variable {timeout shift : Int} {w : World} {s : Shift}

theorem publishShift_run (hl : w.tables.Lawful) (hs : w.tables.shift? shift = some s)
    (hpublished : s.status = .published) (h : CanPublish timeout w s) :
    publishShift timeout shift w =
      (.ok (w.tables.requestsOn shift).length, w.withTables (w.tables.publishOn w.now shift)) := by
  obtain ⟨-, hid⟩ := Tables.mem_of_shift? hs
  have hfree := h.requests
  rw [hid] at hfree
  refine publishShift_ok_iff.2 ⟨h.isOpen, h.timeout, s, hs, h.shift, hfree, rfl, ?_⟩
  rw [Tables.publishShift_eq_self hl hs hpublished]

theorem canPublish_of_ok {n : Nat} {w' : World} (hs : w.tables.shift? shift = some s)
    (h : publishShift timeout shift w = (.ok n, w')) : CanPublish timeout w s := by
  obtain ⟨hopen, htimeout, s', hs', hfree, hrequests, -, -⟩ := publishShift_ok_iff.1 h
  cases hs'.symm.trans hs
  obtain ⟨-, hid⟩ := Tables.mem_of_shift? hs
  exact ⟨hopen, htimeout, hfree, hid ▸ hrequests⟩

theorem publishShift_error (hs : w.tables.shift? shift = some s)
    (h : ¬ CanPublish timeout w s) :
    ∃ e w', publishShift timeout shift w = (.error e, w') ∧ w'.tables = w.tables := by
  cases hrun : publishShift timeout shift w with
  | mk result w' =>
    cases result with
    | error e => exact ⟨e, w', rfl, (atomic_publishShift timeout shift w e w' hrun).tables⟩
    | ok n => exact absurd (canPublish_of_ok hs hrun) h

section Again

variable {later : Calendar.WallClock}

theorem CanPublish.again (h : CanPublish timeout w s) :
    CanPublish timeout ((w.withTables (w.tables.publishOn w.now shift)).atTime later) s where
  isOpen := h.isOpen
  timeout := h.timeout
  shift := h.shift
  requests := by
    intro r hr hbound
    rcases mem_updateWhere.1 hr with ⟨r', hr', -, rfl⟩ | ⟨hr, -⟩
    · exact h.requests r' hr' hbound
    · exact h.requests r hr hbound

theorem publishShift_again (hl : w.tables.Lawful) (hs : w.tables.shift? shift = some s)
    (hpublished : s.status = .published) (h : CanPublish timeout w s) :
    publishShift timeout shift ((w.withTables (w.tables.publishOn w.now shift)).atTime later) =
      (.ok (w.tables.requestsOn shift).length,
        (w.atTime later).withTables (w.tables.publishOn later shift)) := by
  have hl' : ((w.withTables (w.tables.publishOn w.now shift)).atTime later).tables.Lawful :=
    hl.publishOn
  have hcount : ((w.tables.publishOn w.now shift).requestsOn shift).length
      = (w.tables.requestsOn shift).length := by
    rw [Tables.requestsOn_publishOn, List.length_map]
  have htwice : (w.tables.publishOn w.now shift).publishOn later shift
      = w.tables.publishOn later shift := Tables.publishOn_publishOn
  have hid := (Tables.mem_of_shift? hs).2
  subst hid
  rw [publishShift_run hl' hs hpublished h.again, ← hcount, ← htwice]
  rfl

end Again

/-- Publishing a shift that is published already. -/
theorem publishShift_of_published (timeout shift : Int) (w : World) (s : Shift)
    (hl : w.tables.Lawful) (hs : w.tables.shift? shift = some s)
    (hpublished : s.status = .published) :
    let n := (w.tables.requestsOn shift).length
    let after := w.withTables (w.tables.publishOn w.now shift)
    -- unless something is in its way, it stamps, publishes and counts what is bound
    (CanPublish timeout w s → publishShift timeout shift w = (.ok n, after)) ∧
    (¬ CanPublish timeout w s →
      ∃ e w', publishShift timeout shift w = (.error e, w') ∧ w'.tables = w.tables) ∧
    -- that is what is meant if nothing that is bound was published before, and only then
    (w.tables.PublishesNew after.tables w.now shift n ↔
      ∀ r ∈ w.tables.requestsOn shift, r.status ≠ .published) ∧
    -- directly afterwards it does the same again, which is meant only if nothing is bound
    ∀ later : Calendar.WallClock,
      let again := (w.atTime later).withTables (w.tables.publishOn later shift)
      (CanPublish timeout w s → publishShift timeout shift (after.atTime later) = (.ok n, again)) ∧
      (after.tables.PublishesNew again.tables later shift n ↔ w.tables.requestsOn shift = []) := by
  intro n after
  refine ⟨publishShift_run hl hs hpublished, publishShift_error hs,
    Tables.publishesNew_publishOn_iff, fun later => ⟨publishShift_again hl hs hpublished, ?_⟩⟩
  exact Tables.publishesNew_again_iff

/-- A request is made, bound and published, and another one is bound to the same shift. -/
def lateBinding : List TimedCall :=
  publication ++ [
    .createRequest 2 ⟨"CA2", "2026-03-01", "T5", 1, 1, "2026-03-01 11:00:00"⟩,
    .assign 2 2].map TimedCall.undisturbed

theorem canPublish_after_lateBinding :
    (worldAfter 0 lateBinding smallDesk).tables.Lawful ∧
    ∃ s, (worldAfter 0 lateBinding smallDesk).tables.shift? 2 = some s ∧ s.status = .published ∧
      CanPublish 0 (worldAfter 0 lateBinding smallDesk) s := by
  have hl := (sound_worldAfter 0 lateBinding isFresh_smallDesk.sound).lawful
  have hs : (worldAfter 0 lateBinding smallDesk).tables.shift? 2
      = some ⟨2, 1, ⟨0⟩, .published, ⟨0⟩⟩ := by decide +kernel
  refine ⟨hl, _, hs, rfl, ?_⟩
  exact ⟨by decide +kernel, by decide, ⟨by decide +kernel, by decide +kernel⟩, by
    intro r _ _
    have hheld : (worldAfter 0 lateBinding smallDesk).heldRequests = [] := by decide +kernel
    simp [hheld]⟩

/-- One request is new, two are counted. -/
theorem publishShift_of_published_after_lateBinding :
    let w := worldAfter 0 lateBinding smallDesk
    (w.tables.requestsOn 2).map (·.status) = [.published, .assigned] ∧
    (w.tables.newOn 2).length = 1 ∧
    publishShift 0 2 w = (.ok 2, w.withTables (w.tables.publishOn w.now 2)) := by
  intro w
  obtain ⟨hl, s, hs, hpublished, hcan⟩ := canPublish_after_lateBinding
  obtain ⟨hrun, -⟩ := publishShift_of_published 0 2 w s hl hs hpublished
  have hcount : (w.tables.requestsOn 2).length = 2 := by decide +kernel
  rw [hcount] at hrun
  exact ⟨by decide +kernel, by decide +kernel, hrun hcan⟩

/-- What was published before is written and counted again. -/
theorem republication_not_only_of_new :
    ¬ ∀ (timeout shift : Int) (w w' : World) (s : Shift) (n : Nat), w.tables.Lawful →
      w.tables.shift? shift = some s → s.status = .published →
      publishShift timeout shift w = (.ok n, w') →
      w.tables.PublishesNew w'.tables w.now shift n := by
  intro h
  obtain ⟨hl, s, hs, hpublished, hcan⟩ := canPublish_after_lateBinding
  have hrun := publishShift_run hl hs hpublished hcan
  have hcounted := (h 0 2 _ _ s _ hl hs hpublished hrun).counted
  revert hcounted
  decide +kernel

end Desk
end ShuttleDesk
