/-
  ShuttleDesk/Proofs/Desk/Answers.lean
  ====================================
  When an operation of the desk answers, what it answers, and the world it leaves:
  one equivalence for each operation that writes.  All the guards of an operation
  stand in its equivalence, so that what follows from an answer is read off here.
-/
import ShuttleDesk.Desk.Assignment
import ShuttleDesk.Desk.FlightSync
import ShuttleDesk.Desk.Operators
import ShuttleDesk.Desk.Riders
import ShuttleDesk.Proofs.Store.Answers

namespace ShuttleDesk

open Procedure Statement

/-- Readings are put together like procedures, and are taken apart like them. -/
theorem except_bind_ok_iff {ε α β : Type} {x : Except ε α} {k : α → Except ε β} {b : β} :
    x >>= k = .ok b ↔ ∃ a, x = .ok a ∧ k a = .ok b := by
  cases x with
  | error e =>
    constructor
    · intro h
      cases h
    · rintro ⟨a, ha, -⟩
      cases ha
  | ok a => simp [bind, Except.bind]

theorem except_bind_error_iff {ε α β : Type} {x : Except ε α} {k : α → Except ε β} {f : ε} :
    x >>= k = .error f ↔ x = .error f ∨ ∃ a, x = .ok a ∧ k a = .error f := by
  cases x with
  | error f' => simp [bind, Except.bind]
  | ok a => simp [bind, Except.bind]

variable {w w' : World}

namespace Operation

theorem locking_ok_iff {α : Type} {timeout : Int} {x : Operation α} {a : α} :
    locking timeout x w = (.ok a, w') ↔
      w.isOpen = true ∧ timeout ≤ greatestLockTimeout ∧ x w = (.ok a, w') := by
  simp only [locking, transaction_ok_iff, bind_ok_iff, lift_ok_iff, setLockTimeout_ok_iff]
  constructor
  · rintro ⟨_, _, ⟨ho, ht, rfl⟩, h⟩
    exact ⟨ho, ht, h⟩
  · rintro ⟨ho, ht, h⟩
    exact ⟨(), w, ⟨ho, ht, rfl⟩, h⟩

theorem accepted_ok_iff {α : Type} {x : Except Refusal α} {a : α} :
    accepted x w = (.ok a, w') ↔ x = .ok a ∧ w = w' := by
  cases x <;> simp [accepted, Except.mapError]

theorem inCalendar_ok_iff {α : Type} {x : Option α} {a : α} :
    inCalendar x w = (.ok a, w') ↔ x = some a ∧ w = w' := by
  cases x <;> simp [inCalendar]

end Operation

open Operation

namespace Desk

/-! ### Riders -/

theorem createRequest_ok_iff {rider : Int} {input : RequestInput} {r : Request} :
    createRequest rider input w = (.ok r, w') ↔
      w.tables.requestsOf rider = [] ∧ input.validate = .ok () ∧
      ∃ date arrival values,
        readDate "arrival_date" input.arrivalDate = .ok date ∧
        readDateTime "expected_arrival_time" input.expectedArrivalTime = .ok arrival ∧
        newRequest? input date arrival = some values ∧
        Requests.insert rider values w = (.ok r, w') := by
  simp only [createRequest, bind_ok_iff, lift_ok_iff, Requests.countOf_ok_iff, ite_ok_iff,
    fail_ok_iff, and_false, false_or, ofExcept_ok_iff, accepted_ok_iff, inCalendar_ok_iff]
  constructor
  · rintro ⟨_, _, ⟨-, rfl, rfl⟩, hnone, _, _, ⟨hv, rfl⟩, date, _, ⟨hd, rfl⟩, arrival, _, ⟨ha, rfl⟩,
      values, _, ⟨hn, rfl⟩, h⟩
    have hnil : w.tables.requestsOf rider = [] := List.eq_nil_of_length_eq_zero (by omega)
    exact ⟨hnil, hv, date, arrival, values, hd, ha, hn, h⟩
  · rintro ⟨hnone, hv, date, arrival, values, hd, ha, hn, h⟩
    have ho := (Requests.insert_ok_iff.1 h).1
    exact ⟨_, w, ⟨ho, rfl, rfl⟩, by simp [hnone], (), w, ⟨hv, rfl⟩, date, w, ⟨hd, rfl⟩, arrival, w,
      ⟨ha, rfl⟩, values, w, ⟨hn, rfl⟩, h⟩

theorem RequestChange.after?_id {c : RequestChange} {row after : Request}
    (h : c.after? row = some after) : after.id = row.id := by
  obtain ⟨pickup, -, h⟩ := Option.bind_eq_some_iff.1 h
  cases h
  rfl

theorem not_isMutable_iff {s : RequestStatus} : (!s.isMutable) = true ↔ ¬ s = .pending := by
  cases s <;> decide

theorem editRequest_ok_iff {timeout rider request : Int} {edit : RequestEdit} {r : Request} :
    editRequest timeout rider request edit w = (.ok r, w') ↔
      timeout ≤ greatestLockTimeout ∧
      ∃ row change after,
        (w.tables.request? request).filter (·.userId == rider) = some row ∧
        Requests.IsFree w row ∧ row.status = .pending ∧ edit.validate = .ok () ∧
        RequestChange.ofEdit edit = .ok change ∧ change.after? row = some after ∧
        Requests.saveDetails after w = (.ok r, w') := by
  simp only [editRequest, locking_ok_iff, bind_ok_iff, lift_ok_iff, Requests.lockOwned_ok_iff,
    orFail_ok_iff, ite_ok_iff, fail_ok_iff, and_false, false_or, ofExcept_ok_iff, accepted_ok_iff,
    inCalendar_ok_iff, not_isMutable_iff, not_not]
  constructor
  · rintro ⟨-, ht, _, _, ⟨-, hfree, hf, rfl⟩, row, _, ⟨rfl, rfl⟩, hp, _, _, ⟨hv, rfl⟩, change, _,
      ⟨hc, rfl⟩, after, _, ⟨ha, rfl⟩, h⟩
    exact ⟨ht, row, change, after, hf, hfree row hf, hp, hv, hc, ha, h⟩
  · rintro ⟨ht, row, change, after, hf, hfree, hp, hv, hc, ha, h⟩
    have ho := (Requests.saveDetails_ok_iff.1 h).1
    refine ⟨ho, ht, _, w, ⟨ho, ?_, hf, rfl⟩, row, w, ⟨rfl, rfl⟩, hp, (), w, ⟨hv, rfl⟩, change, w,
      ⟨hc, rfl⟩, after, w, ⟨ha, rfl⟩, h⟩
    intro r' hr'
    obtain rfl : row = r' := by simpa [hf] using hr'
    exact hfree

/-! ### Binding requests -/

theorem assign_ok_iff {timeout shift request : Int} {warning : Option Warning} :
    assign timeout shift request w = (.ok warning, w') ↔
      w.isOpen = true ∧ timeout ≤ greatestLockTimeout ∧
      ∃ locked row,
        Shifts.lockedOf w.tables shift = some locked ∧ locked.id ∉ w.heldShifts ∧
        w.tables.request? request = some row ∧ Requests.IsFree w row ∧ row.status = .pending ∧
        w.tables.bindingsOf request = [] ∧ (w.tables.shift? shift).isSome = true ∧
        Requests.AreFree w (·.id == request) ∧
        ((w.tables.load shift).withRider row.checkedBags row.carryOnBags).warning locked.capacity
          = warning ∧
        w.withTables ((w.tables.bind shift request).setStatus w.now request .assigned) = w' := by
  simp only [assign, locking_ok_iff, bind_ok_iff, lift_ok_iff, Shifts.lockWithCapacity_ok_iff,
    Requests.lock_ok_iff, orFail_ok_iff, ite_ok_iff, fail_ok_iff, and_false, false_or,
    Shifts.load_ok_iff, mapError_ok_iff, Bindings.insert_ok_iff, Requests.setStatus_ok_iff,
    pure_ok_iff, ne_eq, not_not]
  constructor
  · rintro ⟨ho, ht, _, _, ⟨-, hheld, hl, rfl⟩, locked, _, ⟨rfl, rfl⟩, _, _, ⟨-, hfree, hr, rfl⟩,
      row, _, ⟨rfl, rfl⟩, hp, _, _, ⟨-, rfl, rfl⟩, _, _, ⟨-, hb, hs, -, rfl⟩, _, _, ⟨-, hfrees, rfl⟩,
      hwarn, rfl⟩
    exact ⟨ho, ht, locked, row, hl, hheld locked hl, hr, hfree row hr, hp, hb, hs, hfrees, hwarn,
      rfl⟩
  · rintro ⟨ho, ht, locked, row, hl, hheld, hr, hfree, hp, hb, hs, hfrees, hwarn, rfl⟩
    refine ⟨ho, ht, _, w, ⟨ho, ?_, hl, rfl⟩, locked, w, ⟨rfl, rfl⟩, _, w, ⟨ho, ?_, hr, rfl⟩, row, w,
      ⟨rfl, rfl⟩, hp, _, w, ⟨ho, rfl, rfl⟩, (), _, ⟨ho, hb, hs, by simp [hr], rfl⟩, (), _,
      ⟨ho, hfrees, rfl⟩, hwarn, rfl⟩
    · intro l hl'
      obtain rfl : locked = l := by simpa [hl] using hl'
      exact hheld
    · intro r' hr'
      obtain rfl : row = r' := by simpa [hr] using hr'
      exact hfree

theorem unassign_ok_iff {timeout shift request : Int} {u : Unit} :
    unassign timeout shift request w = (.ok u, w') ↔
      w.isOpen = true ∧ timeout ≤ greatestLockTimeout ∧
      ∃ s row,
        w.tables.shift? shift = some s ∧ Shifts.IsFree w s ∧
        w.tables.request? request = some row ∧ Requests.IsFree w row ∧ row.status ≠ .published ∧
        w.tables.isBound shift request = true ∧ Requests.AreFree w (·.id == request) ∧
        w.withTables ((w.tables.unbind shift request).setStatus w.now request .pending) = w' := by
  simp only [unassign, locking_ok_iff, bind_ok_iff, lift_ok_iff, Shifts.lock_ok_iff,
    Requests.lock_ok_iff, orFail_ok_iff, ite_ok_iff, fail_ok_iff, and_false, false_or, or_false,
    Bindings.delete_ok_iff, Requests.setStatus_ok_iff]
  constructor
  · rintro ⟨ho, ht, _, _, ⟨-, hlock, hs, rfl⟩, s, _, ⟨rfl, rfl⟩, _, _, ⟨-, hfree, hr, rfl⟩, row, _,
      ⟨rfl, rfl⟩, hp, _, _, ⟨-, rfl, rfl⟩, hb, -, hfrees, rfl⟩
    exact ⟨ho, ht, s, row, hs, hlock s hs, hr, hfree row hr, hp, hb, hfrees, rfl⟩
  · rintro ⟨ho, ht, s, row, hs, hlock, hr, hfree, hp, hb, hfrees, rfl⟩
    refine ⟨ho, ht, _, w, ⟨ho, ?_, hs, rfl⟩, s, w, ⟨rfl, rfl⟩, _, w, ⟨ho, ?_, hr, rfl⟩, row, w,
      ⟨rfl, rfl⟩, hp, _, _, ⟨ho, rfl, rfl⟩, hb, ho, hfrees, rfl⟩
    · intro s' hs'
      obtain rfl : s = s' := by simpa [hs] using hs'
      exact hlock
    · intro r' hr'
      obtain rfl : row = r' := by simpa [hr] using hr'
      exact hfree

/-! ### Shifts -/

theorem existingDriver_ok_iff {id : Int} {d : Driver} :
    existingDriver id w = (.ok d, w') ↔ w.isOpen = true ∧ w.tables.driver? id = some d ∧ w = w' := by
  simp only [existingDriver, bind_ok_iff, lift_ok_iff, Drivers.find?_ok_iff, orFail_ok_iff]
  constructor
  · rintro ⟨_, _, ⟨ho, hd, rfl⟩, rfl, rfl⟩
    exact ⟨ho, hd, rfl⟩
  · rintro ⟨ho, hd, rfl⟩
    exact ⟨_, w, ⟨ho, hd, rfl⟩, rfl, rfl⟩

theorem existingUser_ok_iff {id : Int} {u : User} :
    existingUser id w = (.ok u, w') ↔ w.isOpen = true ∧ w.tables.user? id = some u ∧ w = w' := by
  simp only [existingUser, bind_ok_iff, lift_ok_iff, Users.find?_ok_iff, orFail_ok_iff]
  constructor
  · rintro ⟨_, _, ⟨ho, hu, rfl⟩, rfl, rfl⟩
    exact ⟨ho, hu, rfl⟩
  · rintro ⟨ho, hu, rfl⟩
    exact ⟨_, w, ⟨ho, hu, rfl⟩, rfl, rfl⟩

theorem createShift_ok_iff {driver : Int} {departure : Calendar.DateTime} {s : Shift} :
    createShift driver departure w = (.ok s, w') ↔
      Shifts.insert driver (.ofDateTime departure) w = (.ok s, w') := by
  simp only [createShift, bind_ok_iff, lift_ok_iff, existingDriver_ok_iff]
  constructor
  · rintro ⟨_, _, ⟨-, -, rfl⟩, h⟩
    exact h
  · intro h
    obtain ⟨ho, -, hd, -⟩ := Shifts.insert_ok_iff.1 h
    obtain ⟨d, hd⟩ := Option.isSome_iff_exists.1 hd
    exact ⟨d, w, ⟨ho, hd, rfl⟩, h⟩

theorem updateShift_ok_iff {shift : Int} {change : ShiftChange} {s : Shift} :
    updateShift shift change w = (.ok s, w') ↔
      change.patch.isEmpty = false ∧
      Shifts.update shift change.patch w = (.ok (some s), w') := by
  simp only [updateShift, ite_ok_iff, fail_ok_iff, and_false, false_or, Bool.not_eq_true]
  refine and_congr_right fun _ => ?_
  cases hd : change.driverId with
  | none =>
    simp only [bind_ok_iff, lift_ok_iff, orFail_ok_iff]
    constructor
    · rintro ⟨_, _, h, rfl, rfl⟩
      exact h
    · intro h
      exact ⟨_, w', h, rfl, rfl⟩
  | some d =>
    simp only [bind_ok_iff, lift_ok_iff, orFail_ok_iff, existingDriver_ok_iff]
    constructor
    · rintro ⟨_, _, ⟨-, -, rfl⟩, _, _, h, rfl, rfl⟩
      exact h
    · intro h
      -- the update looks the named driver up as well
      obtain ⟨ho, -, -, ⟨-, hs, -⟩ | ⟨-, hexists, -⟩⟩ := Shifts.update_ok_iff.1 h
      · simp at hs
      · obtain ⟨row, hrow⟩ := Option.isSome_iff_exists.1 (hexists d hd)
        exact ⟨row, w, ⟨ho, hrow, rfl⟩, _, w', h, rfl, rfl⟩

theorem publishShift_ok_iff {timeout shift : Int} {n : Nat} :
    publishShift timeout shift w = (.ok n, w') ↔
      w.isOpen = true ∧ timeout ≤ greatestLockTimeout ∧
      ∃ s, w.tables.shift? shift = some s ∧ Shifts.IsFree w s ∧
        Requests.AreFree w (fun r => w.tables.isBound shift r.id) ∧
        (w.tables.requestsOn shift).length = n ∧
        w.withTables ((w.tables.publishShift shift).publishOn w.now shift) = w' := by
  simp only [publishShift, locking_ok_iff, bind_ok_iff, lift_ok_iff, Shifts.lock_ok_iff,
    orFail_ok_iff, Shifts.setStatus_ok_iff, Requests.publishOn_ok_iff]
  constructor
  · rintro ⟨ho, ht, _, _, ⟨-, hlock, hs, rfl⟩, s, _, ⟨rfl, rfl⟩, _, _, ⟨-, -, rfl⟩, -, hfree, hn,
      rfl⟩
    exact ⟨ho, ht, s, hs, hlock s hs, hfree, hn, rfl⟩
  · rintro ⟨ho, ht, s, hs, hlock, hfree, hn, rfl⟩
    refine ⟨ho, ht, _, w, ⟨ho, ?_, hs, rfl⟩, s, w, ⟨rfl, rfl⟩, (), _, ⟨ho, ?_, rfl⟩, ho, hfree, hn,
      rfl⟩
    · intro s' hs'
      obtain rfl : s = s' := by simpa [hs] using hs'
      exact hlock
    · intro s' hs'
      obtain rfl : s = s' := by simpa [hs] using hs'
      exact hlock.1

/-! ### Staff -/

theorem assignStaff_ok_iff {timeout shift user : Int} {v : Unit} :
    assignStaff timeout shift user w = (.ok v, w') ↔
      timeout ≤ greatestLockTimeout ∧
      ∃ u s added,
        w.tables.user? user = some u ∧ u.role.isStaffLike = true ∧
        w.tables.shift? shift = some s ∧ Shifts.IsFree w s ∧
        Staffings.insert shift user w = (.ok added, w') := by
  simp only [assignStaff, bind_ok_iff, existingUser_ok_iff, ite_ok_iff, fail_ok_iff, and_false,
    false_or, locking_ok_iff, lift_ok_iff, Shifts.lock_ok_iff, orFail_ok_iff, pure_ok_iff,
    Bool.not_eq_true', Bool.not_eq_false]
  constructor
  · rintro ⟨u, _, ⟨-, hu, rfl⟩, hrole, -, ht, _, _, ⟨-, hlock, hs, rfl⟩, s, _, ⟨rfl, rfl⟩, added, _,
      h, -, rfl⟩
    exact ⟨ht, u, s, added, hu, hrole, hs, hlock s hs, h⟩
  · rintro ⟨ht, u, s, added, hu, hrole, hs, hlock, h⟩
    have ho := (Staffings.insert_ok_iff.1 h).1
    refine ⟨u, w, ⟨ho, hu, rfl⟩, hrole, ho, ht, _, w, ⟨ho, ?_, hs, rfl⟩, s, w, ⟨rfl, rfl⟩, added, _,
      h, trivial, rfl⟩
    intro s' hs'
    obtain rfl : s = s' := by simpa [hs] using hs'
    exact hlock

theorem removeStaff_ok_iff {timeout shift user : Int} {v : Unit} :
    removeStaff timeout shift user w = (.ok v, w') ↔
      w.isOpen = true ∧ timeout ≤ greatestLockTimeout ∧
      ∃ s, w.tables.shift? shift = some s ∧ Shifts.IsFree w s ∧
        w.withTables (w.tables.removeStaff shift user) = w' := by
  simp only [removeStaff, bind_ok_iff, locking_ok_iff, lift_ok_iff, Shifts.lock_ok_iff,
    orFail_ok_iff, pure_ok_iff, Staffings.delete_ok_iff]
  constructor
  · rintro ⟨ho, ht, _, _, ⟨-, hlock, hs, rfl⟩, s, _, ⟨rfl, rfl⟩, _, _, ⟨-, -, rfl⟩, -, rfl⟩
    exact ⟨ho, ht, s, hs, hlock s hs, rfl⟩
  · rintro ⟨ho, ht, s, hs, hlock, rfl⟩
    refine ⟨ho, ht, _, w, ⟨ho, ?_, hs, rfl⟩, s, w, ⟨rfl, rfl⟩, _, _, ⟨ho, rfl, rfl⟩, trivial, rfl⟩
    intro s' hs'
    obtain rfl : s = s' := by simpa [hs] using hs'
    exact hlock

/-! ### Drivers and users -/

theorem createDriver_ok_iff {input : DriverInput} {d : Driver} :
    createDriver input w = (.ok d, w') ↔
      checkProfile input = .ok () ∧ Drivers.insert input w = (.ok d, w') := by
  simp only [createDriver, bind_ok_iff, ofExcept_ok_iff, lift_ok_iff]
  constructor
  · rintro ⟨_, _, ⟨hp, rfl⟩, h⟩
    exact ⟨hp, h⟩
  · rintro ⟨hp, h⟩
    exact ⟨(), w, ⟨hp, rfl⟩, h⟩

theorem updateDriver_ok_iff {driver : Int} {input : DriverInput} {d : Driver} :
    updateDriver driver input w = (.ok d, w') ↔
      checkProfile input = .ok () ∧ Drivers.update driver input w = (.ok (some d), w') := by
  simp only [updateDriver, bind_ok_iff, ofExcept_ok_iff, lift_ok_iff, orFail_ok_iff]
  constructor
  · rintro ⟨_, _, ⟨hp, rfl⟩, _, _, h, rfl, rfl⟩
    exact ⟨hp, h⟩
  · rintro ⟨hp, h⟩
    exact ⟨(), w, ⟨hp, rfl⟩, _, w', h, rfl, rfl⟩

theorem changeRole_ok_iff {user : Int} {role : Role} {u : User} :
    changeRole user role w = (.ok u, w') ↔
      w.isOpen = true ∧ (∃ v, w.tables.user? user = some v ∧ v.role ≠ .admin) ∧
      (w.tables.setRole w.now user role).user? user = some u ∧
      w.withTables (w.tables.setRole w.now user role) = w' := by
  simp only [changeRole, bind_ok_iff, existingUser_ok_iff, ite_ok_iff, fail_ok_iff, and_false,
    false_or, lift_ok_iff, Users.setRole_ok_iff, orFail_ok_iff]
  constructor
  · rintro ⟨v, _, ⟨ho, hv, rfl⟩, hrole, _, _, ⟨-, hu, rfl⟩, rfl, rfl⟩
    exact ⟨ho, ⟨v, hv, hrole⟩, hu, rfl⟩
  · rintro ⟨ho, ⟨v, hv, hrole⟩, hu, rfl⟩
    exact ⟨v, w, ⟨ho, hv, rfl⟩, hrole, _, _, ⟨ho, hu, rfl⟩, rfl, rfl⟩

/-! ### Flights -/

/-- The rows that refreshes reach, one refresh after the other, are free. -/
def ReachFree (w : World) : List Flight.Refresh → Prop
  | [] => True
  | f :: fs =>
    Storable (Requests.refreshArguments f) ∧ Requests.AreFree w f.reaches ∧
      ReachFree (w.withTables (w.tables.refresh w.now f)) fs

/-- The number of rows that refreshes change, one refresh after the other. -/
def reached (t : Tables) (now : Calendar.WallClock) : List Flight.Refresh → Nat
  | [] => 0
  | f :: fs => (t.requests.filter f.reaches).length + reached (t.refresh now f) now fs

theorem applyAll_ok_iff {fs : List Flight.Refresh} {n : Nat} :
    applyAll fs w = (.ok n, w') ↔
      (fs = [] ∨ w.isOpen = true) ∧ ReachFree w fs ∧ reached w.tables w.now fs = n ∧
      w.withTables (w.tables.refreshAll w.now fs) = w' := by
  induction fs generalizing w w' n with
  | nil => simp [applyAll, ReachFree, reached, Tables.refreshAll]
  | cons f fs ih =>
    simp only [applyAll, bind_ok_iff, lift_ok_iff, Requests.applyRefresh_ok_iff, ih, pure_ok_iff]
    constructor
    · rintro ⟨_, _, ⟨ho, hs, hfree, rfl, rfl⟩, _, _, ⟨-, hrest, rfl, rfl⟩, rfl, rfl⟩
      exact ⟨.inr ho, ⟨hs, hfree, hrest⟩, rfl, rfl⟩
    · rintro ⟨ho, ⟨hs, hfree, hrest⟩, rfl, rfl⟩
      have ho : w.isOpen = true := ho.resolve_left (by simp)
      exact ⟨_, _, ⟨ho, hs, hfree, rfl, rfl⟩, _, _, ⟨.inr ho, hrest, rfl, rfl⟩, rfl, rfl⟩

theorem writeRefreshes_ok_iff {fs : List Flight.Refresh} {n : Nat} :
    writeRefreshes fs w = (.ok n, w') ↔
      (fs = [] ∨ w.isOpen = true) ∧ ReachFree w fs ∧ reached w.tables w.now fs = n ∧
      w.withTables (w.tables.refreshAll w.now fs) = w' := by
  rw [← applyAll_ok_iff]
  cases fs with
  | nil => simp [writeRefreshes, applyAll]
  | cons f fs => simp [writeRefreshes, transaction_ok_iff]

/-- What is learnt about the flights of a day that still matter. -/
def lookups (network : Flight.Network) (base : String) (date : Calendar.Date) (t : Tables) :
    List Flight.Lookup :=
  (t.flightsOn date).map fun f => Flight.lookup network base f date

theorem mem_refreshesOf {ls : List Flight.Lookup} {f : Flight.Refresh} :
    f ∈ refreshesOf ls ↔ .found f ∈ ls := by
  unfold refreshesOf
  rw [List.mem_filterMap]
  constructor
  · rintro ⟨l, hl, hf⟩
    cases l with
    | found g =>
      cases hf
      exact hl
    | failed e => cases hf
    | pickupPastCalendar => cases hf
  · intro h
    exact ⟨_, h, rfl⟩

theorem syncDate_ok_iff {network : Flight.Network} {base : Option String} {date : Calendar.Date}
    {r : SyncReport} :
    syncDate network base date w = (.ok r, w') ↔
      (Flight.baseOf base = none ∧ r = .skip ∧ w = w') ∨
      ∃ b, Flight.baseOf base = some b ∧ w.isOpen = true ∧ Storable [.date date] ∧
        (lookups network b date w.tables).any isPastCalendar = false ∧
        ∃ n, writeRefreshes (refreshesOf (lookups network b date w.tables)) w = (.ok n, w') ∧
          r = {
            skipped := false
            flightsChecked := (w.tables.flightsOn date).length
            flightsFailed := ((lookups network b date w.tables).filter isFailed).length
            requestsUpdated := n } := by
  unfold syncDate
  cases hb : Flight.baseOf base with
  | none =>
    rw [pure_ok_iff]
    constructor
    · rintro ⟨rfl, rfl⟩
      exact .inl ⟨rfl, rfl, rfl⟩
    · rintro (⟨-, rfl, rfl⟩ | ⟨_, h, -⟩)
      · exact ⟨rfl, rfl⟩
      · cases h
  | some b =>
    simp only [bind_ok_iff, lift_ok_iff, Requests.flightsOn_ok_iff, ite_ok_iff, overflow_ok_iff,
      and_false, false_or, pure_ok_iff, Bool.not_eq_true]
    constructor
    · rintro ⟨_, _, ⟨ho, hs, rfl, rfl⟩, hpast, n, _, hwrite, rfl, rfl⟩
      exact .inr ⟨b, rfl, ho, hs, hpast, n, hwrite, rfl⟩
    · rintro (⟨h, -⟩ | ⟨_, h, ho, hs, hpast, n, hwrite, rfl⟩)
      · cases h
      · cases h
        exact ⟨_, w, ⟨ho, hs, rfl, rfl⟩, hpast, n, w', hwrite, rfl, rfl⟩

/-- The pass where there is a provider. -/
theorem syncDate_ok_iff_of_base {network : Flight.Network} {base : Option String} {b : String}
    {date : Calendar.Date} {r : SyncReport} (hbase : Flight.baseOf base = some b) :
    syncDate network base date w = (.ok r, w') ↔
      w.isOpen = true ∧ Storable [.date date] ∧
        (lookups network b date w.tables).any isPastCalendar = false ∧
        ∃ n, writeRefreshes (refreshesOf (lookups network b date w.tables)) w = (.ok n, w') ∧
          r = {
            skipped := false
            flightsChecked := (w.tables.flightsOn date).length
            flightsFailed := ((lookups network b date w.tables).filter isFailed).length
            requestsUpdated := n } := by
  rw [syncDate_ok_iff]
  simp [hbase]

end Desk
end ShuttleDesk
