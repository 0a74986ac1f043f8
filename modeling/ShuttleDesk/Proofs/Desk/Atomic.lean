/-
  ShuttleDesk/Proofs/Desk/Atomic.lean
  ===================================
  What an operation of the desk leaves behind when it stops.  Most leave every row as
  it was, because they write in a transaction, or because their one write is the last
  thing they do.  Making or editing a shift writes outside of a transaction and then
  reads the row back: if its departure lies past the calendar, the row stays.
-/
import ShuttleDesk.Desk.Call
import ShuttleDesk.Proofs.Calendar.DayCount
import ShuttleDesk.Proofs.Desk.Answers
import ShuttleDesk.Proofs.Store.Atomic

namespace ShuttleDesk

open Procedure

namespace Operation

variable {α γ : Type} {f : World → γ}

theorem keeps_accepted (x : Except Refusal α) : Keeps f (accepted x) := .ofExcept _

theorem keeps_inCalendar (x : Option α) : Keeps f (inCalendar x) := by
  cases x with
  | none => exact .overflow
  | some a => exact .pure a

theorem atomic_locking {timeout : Int} {x : Operation α} (hx : Keeps World.issued x) :
    Atomic (locking timeout x) :=
  .transaction (.bind (.lift (Statement.keeps_setLockTimeout timeout).of_id) fun _ => hx)

end Operation

namespace Desk

open Operation

/-! ### In a transaction -/

theorem atomic_editRequest (timeout rider request : Int) (edit : RequestEdit) :
    Atomic (editRequest timeout rider request edit) := by
  apply atomic_locking
  refine .bind (.lift (Requests.keeps_lockOwned _ _).of_id) fun _ => .bind (.orFail _ _) fun r => ?_
  refine .ite (.fail _) (.bind (.ofExcept _) fun _ => .bind (keeps_accepted _) fun c => ?_)
  exact .bind (keeps_inCalendar _) fun after => .lift (Requests.keeps_saveDetails after)

theorem atomic_assign (timeout shift request : Int) : Atomic (assign timeout shift request) := by
  apply atomic_locking
  refine .bind (.lift (Shifts.keeps_lockWithCapacity _).of_id) fun _ => .bind (.orFail _ _) fun s => ?_
  refine .bind (.lift (Requests.keeps_lock _).of_id) fun _ => .bind (.orFail _ _) fun r => ?_
  refine .ite (.fail _) (.bind (.lift (Shifts.keeps_load _).of_id) fun load => ?_)
  refine .bind (.mapError _ (Bindings.keeps_insert _ _)) fun _ => ?_
  exact .bind (.lift (Requests.keeps_setStatus _ _)) fun _ => .pure _

theorem atomic_unassign (timeout shift request : Int) :
    Atomic (unassign timeout shift request) := by
  apply atomic_locking
  refine .bind (.lift (Shifts.keeps_lock _).of_id) fun _ => .bind (.orFail _ _) fun s => ?_
  refine .bind (.lift (Requests.keeps_lock _).of_id) fun _ => .bind (.orFail _ _) fun r => ?_
  refine .ite (.fail _) (.bind (.lift (Bindings.keeps_delete _ _)) fun found => ?_)
  exact .ite (.lift (Requests.keeps_setStatus _ _)) (.fail _)

theorem atomic_publishShift (timeout shift : Int) : Atomic (publishShift timeout shift) := by
  apply atomic_locking
  refine .bind (.lift (Shifts.keeps_lock _).of_id) fun _ => .bind (.orFail _ _) fun s => ?_
  refine .bind (.lift (Shifts.keeps_setStatus _ _)) fun _ => ?_
  exact .lift (Requests.keeps_publishOn _)

theorem keeps_existingDriver (id : Int) {γ : Type} {f : World → γ} :
    Keeps f (existingDriver id) :=
  .bind (.lift (Drivers.keeps_find? id).of_id) fun _ => .orFail _ _

theorem keeps_existingUser (id : Int) {γ : Type} {f : World → γ} : Keeps f (existingUser id) :=
  .bind (.lift (Users.keeps_find? id).of_id) fun _ => .orFail _ _

theorem atomic_assignStaff (timeout shift user : Int) :
    Atomic (assignStaff timeout shift user) := by
  refine .bind (keeps_existingUser user).harmless fun u => .ite (.of_keeps (.fail _)) ?_
  apply atomic_locking
  refine .bind (.lift (Shifts.keeps_lock _).of_id) fun _ => .bind (.orFail _ _) fun s => ?_
  exact .bind (.lift (Staffings.keeps_insert _ _)) fun _ => .pure _

theorem atomic_removeStaff (timeout shift user : Int) :
    Atomic (removeStaff timeout shift user) := by
  apply atomic_locking
  refine .bind (.lift (Shifts.keeps_lock _).of_id) fun _ => .bind (.orFail _ _) fun s => ?_
  exact .bind (.lift (Staffings.keeps_delete _ _)) fun _ => .pure _

theorem keeps_applyAll (fs : List Flight.Refresh) : Keeps World.issued (applyAll fs) := by
  induction fs with
  | nil => exact .pure 0
  | cons f fs ih =>
    exact .bind (.lift (Requests.keeps_applyRefresh f)) fun _ => .bind ih fun _ => .pure _

theorem atomic_writeRefreshes (fs : List Flight.Refresh) : Atomic (writeRefreshes fs) :=
  .ite (.of_keeps (.pure _)) (.transaction (keeps_applyAll fs))

theorem atomic_syncDate (network : Flight.Network) (base : Option String)
    (date : Calendar.Date) : Atomic (syncDate network base date) := by
  unfold syncDate
  cases Flight.baseOf base with
  | none => exact .of_keeps (.pure _)
  | some b =>
    refine .bind (Keeps.lift (Requests.keeps_flightsOn date)).harmless fun fs => ?_
    refine .ite (.of_keeps .overflow) ?_
    exact .bind_answers (atomic_writeRefreshes _) fun n w => ⟨_, w, rfl⟩

/-! ### One write, as the last step -/

/-- A request whose pickup is in the calendar can be read back once it is written. -/
theorem readable_of_newRequest? {input : RequestInput} {date : Calendar.Date}
    {arrival : Calendar.DateTime} {values : NewRequest}
    (h : newRequest? input date arrival = some values) :
    values.arrivalTime.all Calendar.WallClock.isReadable = true ∧
      values.calcPickupTime.all Calendar.WallClock.isReadable = true := by
  unfold newRequest? at h
  cases hp : Pickup.time? arrival (Pickup.bufferFor input.terminal) with
  | none => simp [hp] at h
  | some pickup =>
    simp only [hp, Option.bind_eq_bind, Option.bind_some, Option.pure_def, Option.some.injEq] at h
    subst h
    exact Pickup.isReadable_of_time? hp

theorem atomic_createRequest (rider : Int) (input : RequestInput) :
    Atomic (createRequest rider input) := by
  refine .bind (Keeps.lift (Requests.keeps_countOf rider)).harmless fun n => ?_
  refine .ite (.of_keeps (.fail _)) (.bind (Keeps.ofExcept _).harmless fun _ => ?_)
  refine .bind (keeps_accepted _).harmless fun date => ?_
  refine .bind (keeps_accepted _).harmless fun arrival => ?_
  cases hv : newRequest? input date arrival with
  | none => exact .of_keeps fun _ => rfl
  | some values => exact .lift (Requests.atomic_insert (readable_of_newRequest? hv))

theorem atomic_createDriver (input : DriverInput) : Atomic (createDriver input) :=
  .bind (Keeps.ofExcept _).harmless fun _ => .lift (Drivers.atomic_insert input)

theorem atomic_updateDriver (driver : Int) (input : DriverInput) :
    Atomic (updateDriver driver input) := by
  refine .bind (Keeps.ofExcept _).harmless fun _ => ?_
  intro w e w' h
  rcases bind_error_iff.1 h with h | ⟨d, w₁, hd, h⟩
  · exact Atomic.lift (Drivers.atomic_update driver input) w e w' h
  · -- no driver was found, so nothing was written
    obtain ⟨rfl, -, rfl⟩ := orFail_error_iff.1 h
    obtain ⟨-, -, ⟨-, -, rfl⟩ | ⟨-, -, hsome, -⟩⟩ := Drivers.update_ok_iff.1 (lift_ok_iff.1 hd)
    · exact .refl w
    · cases hsome

theorem atomic_changeRole (user : Int) (role : Role) : Atomic (changeRole user role) := by
  intro w e w' h
  rcases bind_error_iff.1 h with h | ⟨u, w₁, hu, h⟩
  · exact Atomic.of_keeps (keeps_existingUser user) w e w' h
  obtain ⟨ho, hfound, rfl⟩ := existingUser_ok_iff.1 hu
  rcases ite_error_iff.1 h with ⟨-, h⟩ | ⟨-, h⟩
  · exact Atomic.of_keeps (.fail _) w e w' h
  -- the user exists, also after the change, so the change goes through
  have hid : (w.tables.setRole w.now user role).user? user =
      (w.tables.user? user).map fun v =>
        if v.id == user then { v with role, updatedAt := w.now } else v :=
    find?_updateWhere fun _ => rfl
  rw [hfound] at hid
  have hset : (liftM (Users.setRole user role) : Operation (Option User)) w
      = (.ok _, w.withTables (w.tables.setRole w.now user role)) :=
    lift_ok_iff.2 (Users.setRole_ok_iff.2 ⟨ho, hid, rfl⟩)
  rw [bind_run, hset] at h
  cases h

/-! ### Shifts -/

section Shifts

variable {w w' : World} {s : Stop DeskError}

theorem createShift_error {driver : Int} {departure : Calendar.DateTime}
    (h : createShift driver departure w = (.error s, w')) :
    w.Unwritten w' ∨
      (Shifts.InsertsUnreadable w driver (.ofDateTime departure) ∧ s = .timeOverflow ∧
        w' = Shifts.afterInsert w driver (.ofDateTime departure)) := by
  rcases bind_error_iff.1 h with h | ⟨d, _, hd, h⟩
  · exact .inl (Atomic.of_keeps (keeps_existingDriver driver) w s w' h)
  obtain ⟨-, -, rfl⟩ := existingDriver_ok_iff.1 hd
  rcases mapError_error_iff.1 h with ⟨e, h, -⟩ | ⟨h, hs⟩
  · rcases Shifts.insert_error h with h | ⟨-, hs, -⟩
    · exact .inl h
    · cases hs
  · rcases Shifts.insert_error h with h | ⟨hleft, -, rfl⟩
    · exact .inl h
    · exact .inr ⟨hleft, hs, rfl⟩

theorem createShift_of_unreadable {driver : Int} {departure : Calendar.DateTime}
    (h : Shifts.InsertsUnreadable w driver (.ofDateTime departure)) :
    createShift driver departure w
      = (.error .timeOverflow, Shifts.afterInsert w driver (.ofDateTime departure)) := by
  obtain ⟨d, hd⟩ := Option.isSome_iff_exists.1 h.driver
  have hfound : existingDriver driver w = (.ok d, w) :=
    existingDriver_ok_iff.2 ⟨h.isOpen, hd, rfl⟩
  refine bind_error_iff.2 (.inr ⟨d, w, hfound, mapError_error_iff.2 (.inr ⟨?_, rfl⟩)⟩)
  exact Shifts.insert_of_unreadable h

/-- What is left to do for an edit once the driver that it names has been found. -/
theorem saveShift_error {shift : Int} {patch : ShiftPatch}
    (h : (do orFail (.shiftNotFound shift) (← liftM (Shifts.update shift patch)) : Operation Shift) w
      = (.error s, w')) :
    w.Unwritten w' ∨ (Shifts.UpdatesUnreadable w shift patch ∧ s = .timeOverflow ∧
      w' = Shifts.afterUpdate w shift patch) := by
  rcases bind_error_iff.1 h with h | ⟨found, _, hfound, h⟩
  · rcases mapError_error_iff.1 h with ⟨e, h, -⟩ | ⟨h, hs⟩
    · rcases Shifts.update_error h with h | ⟨-, hs, -⟩
      · exact .inl h
      · cases hs
    · rcases Shifts.update_error h with h | ⟨hleft, -, rfl⟩
      · exact .inl h
      · exact .inr ⟨hleft, hs, rfl⟩
  · -- no shift was found, so nothing was written
    obtain ⟨rfl, -, rfl⟩ := orFail_error_iff.1 h
    obtain ⟨-, -, -, ⟨-, -, rfl⟩ | ⟨hsome, -, -, hnone, -⟩⟩ :=
      Shifts.update_ok_iff.1 (lift_ok_iff.1 hfound)
    · exact .inl (.refl w)
    · have hid : ∀ s, (patch.apply s).id = s.id := fun _ => rfl
      rw [Tables.shift?_editShift hid, Option.map_eq_none_iff] at hnone
      rw [hnone] at hsome
      cases hsome

theorem updateShift_error {shift : Int} {change : ShiftChange}
    (h : updateShift shift change w = (.error s, w')) :
    w.Unwritten w' ∨
      (change.patch.isEmpty = false ∧ Shifts.UpdatesUnreadable w shift change.patch ∧
        s = .timeOverflow ∧ w' = Shifts.afterUpdate w shift change.patch) := by
  rcases ite_error_iff.1 h with ⟨-, h⟩ | ⟨hpatch, h⟩
  · exact .inl (Atomic.of_keeps (.fail _) w s w' h)
  rw [Bool.not_eq_true] at hpatch
  cases hd : change.driverId with
  | none =>
    simp only [hd] at h
    rcases saveShift_error h with h | h
    · exact .inl h
    · exact .inr ⟨hpatch, h⟩
  | some d =>
    simp only [hd] at h
    rcases bind_error_iff.1 h with h | ⟨_, _, hfound, h⟩
    · exact .inl (Atomic.of_keeps (keeps_existingDriver d) w s w' h)
    obtain ⟨-, -, rfl⟩ := existingDriver_ok_iff.1 hfound
    rcases saveShift_error h with h | h
    · exact .inl h
    · exact .inr ⟨hpatch, h⟩

theorem updateShift_of_unreadable {shift : Int} {change : ShiftChange}
    (hpatch : change.patch.isEmpty = false)
    (h : Shifts.UpdatesUnreadable w shift change.patch) :
    updateShift shift change w
      = (.error .timeOverflow, Shifts.afterUpdate w shift change.patch) := by
  have hrest : (do
      orFail (DeskError.shiftNotFound shift) (← liftM (Shifts.update shift change.patch)) :
        Operation Shift) w = (.error .timeOverflow, Shifts.afterUpdate w shift change.patch) :=
    bind_error_iff.2 (.inl (mapError_error_iff.2 (.inr ⟨Shifts.update_of_unreadable h, rfl⟩)))
  refine ite_error_iff.2 (.inr ⟨by simp [hpatch], ?_⟩)
  cases hd : change.driverId with
  | none => exact hrest
  | some d =>
    obtain ⟨row, hrow⟩ := Option.isSome_iff_exists.1 (h.driver d hd)
    have hfound : existingDriver d w = (.ok row, w) :=
      existingDriver_ok_iff.2 ⟨h.isOpen, hrow, rfl⟩
    exact bind_error_iff.2 (.inr ⟨row, w, hfound, hrest⟩)

end Shifts

/-! ### Views -/

theorem keeps_listRequests (rider : Int) : Keeps id (listRequests rider) := by
  refine .bind (.lift (Requests.keeps_listOf rider)) fun rs => ?_
  refine .ite (.bind (.pure _) fun _ => .pure _) ?_
  exact .bind (.lift (Shifts.keeps_summaries _)) fun _ => .pure _

theorem keeps_shiftDetail (s : Shift) : Keeps id (shiftDetail s) :=
  .bind (.lift (Drivers.keeps_find? _)) fun _ => .bind (.lift (Requests.keeps_listOn _)) fun _ =>
    .bind (.lift (Staffings.keeps_listOf _)) fun _ => .pure _

theorem keeps_shiftDetails (ss : List Shift) : Keeps id (shiftDetails ss) := by
  induction ss with
  | nil => exact .pure _
  | cons s ss ih => exact .bind (keeps_shiftDetail s) fun _ => .bind ih fun _ => .pure _

theorem keeps_dashboard : Keeps id dashboard :=
  .bind (.lift Shifts.keeps_list) fun ss => keeps_shiftDetails ss

theorem keeps_pendingRequests : Keeps id pendingRequests := .lift (Requests.keeps_listIn _)

theorem keeps_listDrivers : Keeps id listDrivers := .lift (Statement.keeps_query _)

theorem keeps_listUsers : Keeps id listUsers := .lift (Statement.keeps_query _)

/-! ### Calls -/

/-- The call stops and leaves the row behind that it has written. -/
def Call.Strands (w w' : World) : Call → Prop
  | .createShift driver departure =>
    Shifts.InsertsUnreadable w driver (.ofDateTime departure) ∧
      w' = Shifts.afterInsert w driver (.ofDateTime departure)
  | .updateShift shift change =>
    change.patch.isEmpty = false ∧ Shifts.UpdatesUnreadable w shift change.patch ∧
      w' = Shifts.afterUpdate w shift change.patch
  | _ => False

/-- A call that stops has changed no row, unless it leaves one behind. -/
theorem perform_error {timeout : Int} {c : Call} {w w' : World} {s : Stop DeskError}
    (h : c.perform timeout w = (.error s, w')) :
    w.Unwritten w' ∨ (s = .timeOverflow ∧ c.Strands w w') := by
  cases c with
  | createRequest rider input =>
    exact .inl (Atomic.map _ (atomic_createRequest rider input) w s w' h)
  | listRequests rider =>
    exact .inl (Atomic.map _ (.of_keeps (keeps_listRequests rider)) w s w' h)
  | editRequest rider request edit =>
    exact .inl (Atomic.map _ (atomic_editRequest timeout rider request edit) w s w' h)
  | assign shift request =>
    exact .inl (Atomic.map _ (atomic_assign timeout shift request) w s w' h)
  | unassign shift request =>
    exact .inl (Atomic.map _ (atomic_unassign timeout shift request) w s w' h)
  | createShift driver departure =>
    rcases createShift_error (map_error_iff.1 h) with h | ⟨hleft, rfl, rfl⟩
    · exact .inl h
    · exact .inr ⟨rfl, hleft, rfl⟩
  | updateShift shift change =>
    rcases updateShift_error (map_error_iff.1 h) with h | ⟨hpatch, hleft, rfl, rfl⟩
    · exact .inl h
    · exact .inr ⟨rfl, hpatch, hleft, rfl⟩
  | publishShift shift =>
    exact .inl (Atomic.map _ (atomic_publishShift timeout shift) w s w' h)
  | dashboard => exact .inl (Atomic.map _ (.of_keeps keeps_dashboard) w s w' h)
  | pendingRequests => exact .inl (Atomic.map _ (.of_keeps keeps_pendingRequests) w s w' h)
  | assignStaff shift user =>
    exact .inl (Atomic.map _ (atomic_assignStaff timeout shift user) w s w' h)
  | removeStaff shift user =>
    exact .inl (Atomic.map _ (atomic_removeStaff timeout shift user) w s w' h)
  | listDrivers => exact .inl (Atomic.map _ (.of_keeps keeps_listDrivers) w s w' h)
  | createDriver input => exact .inl (Atomic.map _ (atomic_createDriver input) w s w' h)
  | updateDriver driver input =>
    exact .inl (Atomic.map _ (atomic_updateDriver driver input) w s w' h)
  | listUsers => exact .inl (Atomic.map _ (.of_keeps keeps_listUsers) w s w' h)
  | setStaff user => exact .inl (Atomic.map _ (atomic_changeRole user .staff) w s w' h)
  | unsetStaff user => exact .inl (Atomic.map _ (atomic_changeRole user .student) w s w' h)
  | syncFlights network base date =>
    exact .inl (Atomic.map _ (atomic_syncDate network base date) w s w' h)

theorem perform_of_strands {timeout : Int} {c : Call} {w w' : World} (h : c.Strands w w') :
    c.perform timeout w = (.error .timeOverflow, w') := by
  cases c with
  | createShift driver departure =>
    obtain ⟨hleft, rfl⟩ := h
    exact map_error_iff.2 (createShift_of_unreadable hleft)
  | updateShift shift change =>
    obtain ⟨hpatch, hleft, rfl⟩ := h
    exact map_error_iff.2 (updateShift_of_unreadable hpatch hleft)
  | _ => exact h.elim

/-- The call writes a shift whose departure lies past the calendar, and changes a row by it:
a new shift, or a shift that nobody holds and that the edit gives such a departure or leaves it. -/
def Call.LeavesRow (w : World) : Call → Prop
  | .createShift driver departure =>
    w.isOpen = true ∧ (w.tables.driver? driver).isSome = true ∧
      departure = Calendar.DateTime.last
  | .updateShift shift change =>
    w.isOpen = true ∧ change.patch.isEmpty = false ∧ Shifts.DriverExists w.tables change.patch ∧
      (∃ s ∈ w.tables.shift? shift,
        s.id ∉ w.heldShifts ∧ (change.patch.apply s).isReadable = false) ∧
      w.tables.editShift shift change.patch.apply ≠ w.tables
  | _ => False

theorem storable_last :
    Statement.Storable [.time (.ofDateTime Calendar.DateTime.last)] := by decide +kernel

/-- What cannot be read back can be stored: it lies past the calendar, not before it. -/
theorem storable_of_unreadable {change : ShiftChange} {s : Shift}
    (h : (change.patch.apply s).isReadable = false) :
    Statement.Storable (Statement.optionalTime change.patch.departureTime) := by
  cases hd : change.departure with
  | none => simp [ShiftChange.patch, hd, Statement.optionalTime, Statement.Storable]
  | some d =>
    have hlast : d = Calendar.DateTime.last := by
      simpa [Shift.isReadable, ShiftPatch.apply, ShiftChange.patch, hd,
        Calendar.WallClock.isReadable_eq_false_iff] using h
    subst hlast
    simp only [ShiftChange.patch, hd]
    exact storable_last

theorem leavesRow_iff {c : Call} {w : World} :
    c.LeavesRow w ↔ ∃ w', c.Strands w w' ∧ w'.tables ≠ w.tables := by
  cases c with
  | createShift driver departure =>
    simp only [Call.LeavesRow, Call.Strands]
    constructor
    · rintro ⟨ho, hd, rfl⟩
      refine ⟨_, ⟨⟨ho, storable_last, hd, ?_⟩, rfl⟩, ?_⟩
      · exact Calendar.WallClock.isReadable_eq_false_iff.2 rfl
      · intro h
        have hlen := congrArg (fun t => t.shifts.length) h
        simp [Shifts.afterInsert, Tables.addShift] at hlen
    · rintro ⟨w', ⟨hleft, -⟩, -⟩
      exact ⟨hleft.isOpen, hleft.driver,
        Calendar.WallClock.isReadable_eq_false_iff.1 hleft.unreadable⟩
  | updateShift shift change =>
    have hid : ∀ s, (change.patch.apply s).id = s.id := fun _ => rfl
    -- the first row with the id is the row that is waited for, and the row that is read back
    have hrow : (∃ s ∈ w.tables.shift? shift,
          s.id ∉ w.heldShifts ∧ (change.patch.apply s).isReadable = false) ↔
        (∀ s ∈ w.tables.shift? shift, s.id ∉ w.heldShifts) ∧
          ∃ s ∈ (w.tables.editShift shift change.patch.apply).shift? shift,
            s.isReadable = false := by
      rw [Tables.shift?_editShift hid]
      cases hs : w.tables.shift? shift with
      | none => simp
      | some s => simp [(Tables.mem_of_shift? hs).2]
    simp only [Call.LeavesRow, Call.Strands]
    constructor
    · rintro ⟨ho, hpatch, hd, hs, hne⟩
      obtain ⟨s, -, -, hr⟩ := id hs
      obtain ⟨hfree, hunreadable⟩ := hrow.1 hs
      exact ⟨_, ⟨hpatch, ⟨ho, storable_of_unreadable hr, hfree, hd, hunreadable⟩, rfl⟩, hne⟩
    · rintro ⟨w', ⟨hpatch, hleft, rfl⟩, hne⟩
      exact ⟨hleft.isOpen, hpatch, hleft.driver, hrow.2 ⟨hleft.free, hleft.unreadable⟩, hne⟩
  | _ => simp [Call.LeavesRow, Call.Strands]

/-- A call that stops, with an error or because a time leaves the calendar, has changed the
tables exactly if it has left a shift behind that departs past the calendar. -/
theorem stopped_call_changes_tables_iff (timeout : Int) (c : Call) (w : World) :
    ((∃ s, (c.perform timeout w).1 = .error s) ∧
      (c.perform timeout w).2.tables ≠ w.tables) ↔ c.LeavesRow w := by
  rw [leavesRow_iff]
  constructor
  · rintro ⟨⟨s, hs⟩, hne⟩
    have h : c.perform timeout w = (.error s, (c.perform timeout w).2) := Prod.ext hs rfl
    rcases perform_error h with hkept | ⟨-, hleft⟩
    · exact absurd hkept.tables hne
    · exact ⟨_, hleft, hne⟩
  · rintro ⟨w', hleft, hne⟩
    rw [perform_of_strands hleft]
    exact ⟨⟨_, rfl⟩, hne⟩

/-- A store with one driver. -/
def oneDriver : World where
  tables := { Tables.empty with drivers := [⟨1, "D", "Van", ⟨4, 4, 4⟩⟩] }
  issued := ⟨0, 1, 0, 0⟩
  now := ⟨0⟩
  heldShifts := []
  heldRequests := []
  isOpen := true

theorem stopped_createShift_leaves_draft :
    ¬ ∀ (timeout : Int) (c : Call) (w : World), (∃ s, (c.perform timeout w).1 = .error s) →
      (c.perform timeout w).2.tables = w.tables := by
  intro h
  have hleft : Shifts.InsertsUnreadable oneDriver 1 (.ofDateTime Calendar.DateTime.last) :=
    ⟨rfl, storable_last, rfl, Calendar.WallClock.isReadable_eq_false_iff.2 rfl⟩
  have hstop : (Call.createShift 1 Calendar.DateTime.last).perform 0 oneDriver = _ :=
    perform_of_strands ⟨hleft, rfl⟩
  have hsame := h 0 (.createShift 1 Calendar.DateTime.last) oneDriver (by rw [hstop]; exact ⟨_, rfl⟩)
  rw [hstop] at hsame
  have hlen := congrArg (fun t => t.shifts.length) hsame
  simp [Shifts.afterInsert, Tables.addShift, oneDriver] at hlen

end Desk
end ShuttleDesk
