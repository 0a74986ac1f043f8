/-
  ShuttleDesk/Proofs/Desk/Publication.lean
  ========================================
  What a publication writes, row by row.  The shift and every request that a bridge row
  binds to it are published; of these rows nothing but the state and the stamp of the
  request is written, and every other row of every table is as it was.

  No rule of the database is needed for that: the requests are chosen by the bridge
  rows, whatever their states and however the rows came about.  What is needed is that
  the row of the shift can be read, since it is locked by reading it; the requests are
  written without being read.
-/
import ShuttleDesk.Proofs.Desk.BindingOutcome

namespace ShuttleDesk

open Procedure Statement

namespace Tables

/-- A shift is published with the requests that are bound to it, and nothing else happens. -/
structure PublishedWith (t t' : Tables) (now : Calendar.WallClock) (shift : Int) : Prop where
  users : t'.users = t.users
  drivers : t'.drivers = t.drivers
  bindings : t'.bindings = t.bindings
  staffings : t'.staffings = t.staffings
  shifts : List.Forall₂
    (fun s s' => s' = if s.id = shift then { s with status := .published } else s)
    t.shifts t'.shifts
  requests : List.Forall₂
    (fun r r' => r' = if (⟨shift, r.id⟩ : Binding) ∈ t.bindings
      then { r with status := .published, updatedAt := now } else r)
    t.requests t'.requests

theorem publishedWith_publish {t : Tables} {now : Calendar.WallClock} {shift : Int} :
    t.PublishedWith ((t.publishShift shift).publishOn now shift) now shift where
  users := rfl
  drivers := rfl
  bindings := rfl
  staffings := rfl
  shifts := forall₂_updateWhere fun _ => beq_iff_eq
  requests := forall₂_updateWhere fun _ => isBound_iff

end Tables

namespace Desk

variable {wait shift : Int} {w : World}

theorem publishShift_run_of_missing (h : w.IsCalm) (hwait : wait ≤ greatestLockTimeout)
    (hs : w.tables.shift? shift = none) :
    publishShift wait shift w = (.error (.error (.shiftNotFound shift)), w) := by
  have hlock := lockShift_run h shift
  rw [hs] at hlock
  refine locking_run_of_error h hwait ?_
  simp only [bind_run, hlock, Option.all_none, if_true, orFail_none, fail_run]

theorem publishShift_run_of_unreadable {s : Shift} (h : w.IsCalm)
    (hwait : wait ≤ greatestLockTimeout) (hs : w.tables.shift? shift = some s)
    (hreadable : s.isReadable = false) :
    publishShift wait shift w = (.error .timeOverflow, w) := by
  have hlock := lockShift_run h shift
  rw [hs] at hlock
  refine locking_run_of_error h hwait ?_
  simp only [bind_run, hlock, Option.all_some, hreadable, Bool.false_eq_true, if_false]

theorem publishShift_run_of_readable {s : Shift} (h : w.IsCalm)
    (hwait : wait ≤ greatestLockTimeout) (hs : w.tables.shift? shift = some s)
    (hreadable : s.isReadable = true) :
    publishShift wait shift w = (.ok (w.tables.requestsOn shift).length,
      w.withTables ((w.tables.publishShift shift).publishOn w.now shift)) := by
  have hfree : Shifts.IsFree w s := ⟨by simp [h.heldShifts], hreadable⟩
  exact publishShift_ok_iff.2 ⟨h.isOpen, hwait, s, hs, hfree, h.areFree _, rfl, rfl⟩

/-- When nothing is in the way, a shift that is there is published together with the requests that
are bound to it, and nothing else is written; a shift that is not there is refused.  But a shift
whose departure lies past the calendar cannot be published. -/
theorem publishShift_cascades (wait shift : Int) (w : World) (h : w.IsCalm)
    (hwait : wait ≤ greatestLockTimeout) :
    (w.tables.shift? shift = none →
      publishShift wait shift w = (.error (.error (.shiftNotFound shift)), w)) ∧
    ∀ s, w.tables.shift? shift = some s →
      (s.isReadable = true → ∃ t,
        publishShift wait shift w = (.ok (w.tables.requestsOn shift).length, w.withTables t) ∧
        t.shift? shift = some { s with status := .published } ∧
        (∀ r ∈ t.requests, w.tables.isBound shift r.id = true → r.status = .published) ∧
        w.tables.PublishedWith t w.now shift) ∧
      (s.isReadable = false → publishShift wait shift w = (.error .timeOverflow, w)) := by
  refine ⟨publishShift_run_of_missing h hwait, fun s hs => ⟨fun hreadable => ?_,
    publishShift_run_of_unreadable h hwait hs⟩⟩
  refine ⟨_, publishShift_run_of_readable h hwait hs hreadable, ?_, ?_,
    Tables.publishedWith_publish⟩
  · have hid : ∀ s : Shift, ({ s with status := .published } : Shift).id = s.id := fun _ => rfl
    change (w.tables.publishShift shift).shift? shift = _
    rw [Tables.publishShift, Tables.shift?_editShift hid, hs, Option.map_some,
      (Tables.mem_of_shift? hs).2, beq_self_eq_true, if_pos rfl]
  · intro r hr hbound
    rcases mem_updateWhere.1 hr with ⟨r₀, -, -, rfl⟩ | ⟨-, hother⟩
    · rfl
    · exact absurd hbound (Bool.eq_false_iff.1 hother)

/-- Of two requests one is bound to the shift that is published; the other stays pending. -/
theorem publishShift_cascades_after_booking :
    let w := worldAfter 0 (booking ++ [.undisturbed (.createRequest 2
      ⟨"CA2", "2026-03-01", "T5", 1, 1, "2026-03-01 11:00:00"⟩)]) smallDesk
    w.IsCalm ∧ w.tables.requests.map (·.status) = [.assigned, .pending] ∧
    ∃ t, publishShift 5 2 w = (.ok 1, w.withTables t) ∧ w.tables.PublishedWith t w.now 2 ∧
      t.requests.map (·.status) = [.published, .pending] := by
  intro w
  have hcalm : w.IsCalm := by constructor <;> decide +kernel
  have hs : w.tables.shift? 2 = some ⟨2, 1, ⟨0⟩, .draft, ⟨0⟩⟩ := by decide +kernel
  have hcount : (w.tables.requestsOn 2).length = 1 := by decide +kernel
  have hafter : (publishShift 5 2 w).2.tables.requests.map (·.status) = [.published, .pending] := by
    decide +kernel
  obtain ⟨t, hrun, -, -, hpublished⟩ :=
    ((publishShift_cascades 5 2 w hcalm (by decide)).2 _ hs).1 (by decide +kernel)
  rw [hrun] at hafter
  rw [hcount] at hrun
  exact ⟨hcalm, by decide +kernel, t, hrun, hpublished, hafter⟩

/-- The departure of a shift with a request is moved past the calendar: that call stops, but what it
has written stays.  From then on the shift is there and cannot be published. -/
theorem publication_stops_past_calendar :
    let stranded := worldAfter 0
      (booking ++ [.undisturbed (.updateShift 2 ⟨none, some Calendar.DateTime.last⟩)]) smallDesk
    IsFresh smallDesk ∧ stranded.IsCalm ∧ (stranded.tables.shift? 2).isSome = true ∧
    publishShift 5 2 stranded = (.error .timeOverflow, stranded) := by
  intro stranded
  have hcalm : stranded.IsCalm := by constructor <;> decide +kernel
  have hlate : (stranded.tables.shift? 2).all Shift.isReadable = false := by decide +kernel
  obtain ⟨s, hs, hunreadable⟩ := (Option.all_eq_false _ _).1 hlate
  exact ⟨isFresh_smallDesk, hcalm, Option.isSome_of_eq_some hs,
    publishShift_run_of_unreadable hcalm (by decide) hs hunreadable⟩

end Desk
end ShuttleDesk
