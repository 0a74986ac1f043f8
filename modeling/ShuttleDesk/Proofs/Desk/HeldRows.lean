/-
  ShuttleDesk/Proofs/Desk/HeldRows.lean
  =====================================
  Which calls stop because of locks, and exactly when.

  Whether a call sets the lock timeout and whether it comes to a row that another session
  holds are read off the rows: `Call.SetsLockTimeout` and `Call.MeetsHeldRow` list the
  guards that come before, call by call, and run nothing.  The equivalence at the end
  (`stops_perform_iff`) says that a call stops because of locks when one of the two is the
  case, with the timeout deciding between them, and never otherwise.

  Two kinds of calls meet held rows and set no timeout: the edit of a shift and the pass
  over the flights.
-/
import ShuttleDesk.Proofs.Desk.Contention
import ShuttleDesk.Proofs.Desk.FlightIsolation
import ShuttleDesk.Proofs.Desk.Intake
import ShuttleDesk.Proofs.Store.HeldRows

namespace ShuttleDesk

open Procedure Statement StorageError

/-- The error of an operation that comes from locks. -/
def DeskError.IsOfLocks (d : DeskError) : Prop := ∃ e ∈ d.cause?, e.IsOfLocks

namespace DeskError

theorem cause?_ofStorage (e : StorageError) : (ofStorage e).cause? = some e := by
  unfold ofStorage
  split <;> rfl

theorem ofStorage_inj {e e' : StorageError} : ofStorage e = ofStorage e' ↔ e = e' := by
  refine ⟨fun h => ?_, congrArg _⟩
  have hcause := congrArg cause? h
  rwa [cause?_ofStorage, cause?_ofStorage, Option.some.injEq] at hcause

theorem isOfLocks_ofStorage {e : StorageError} : (ofStorage e).IsOfLocks ↔ e.IsOfLocks := by
  simp [IsOfLocks, cause?_ofStorage]

theorem not_isOfLocks_of_isCallerError {d : DeskError} (h : d.isCallerError = true) :
    ¬ d.IsOfLocks := by
  rintro ⟨e, he, -⟩
  rw [isCallerError, Option.mem_def.1 he] at h
  cases h

end DeskError

theorem Procedure.Avoids.lift {α : Type} {x : Statement α} (hx : Avoids StorageError.IsOfLocks x) :
    Avoids DeskError.IsOfLocks (liftM x : Operation α) :=
  .mapError (fun _ => DeskError.isOfLocks_ofStorage.1) hx

namespace Operation

variable {α β : Type} {x : Operation α} {w : World} {e : StorageError} {p : Prop}

theorem faults_ofStorage_iff :
    Faults x w (.error (.ofStorage e)) ↔ Stops x w (.error (.ofStorage e)) := by
  refine and_iff_left ?_
  rw [Stop.IsFault, DeskError.isCallerError, DeskError.cause?_ofStorage]
  rfl

theorem not_faults_of_avoids (he : e.IsOfLocks) (hx : Avoids DeskError.IsOfLocks x) :
    ¬ Faults x w (.error (.ofStorage e)) := by
  rw [faults_ofStorage_iff]
  exact hx w _ (DeskError.isOfLocks_ofStorage.2 he)

/-- After a part that has nothing to do with locks, only what comes next can fail with them. -/
theorem faults_bind_iff_of_avoids {k : α → Operation β} (he : e.IsOfLocks)
    (hx : Avoids DeskError.IsOfLocks x) :
    Faults (x >>= k) w (.error (.ofStorage e)) ↔
      ∃ a v, x w = (.ok a, v) ∧ Faults (k a) v (.error (.ofStorage e)) := by
  rw [faults_bind_iff, or_iff_right (not_faults_of_avoids he hx)]

/-- Before a part that has nothing to do with locks, only what stands there can fail with them. -/
theorem faults_bind_iff_of_then_avoids {k : α → Operation β} (he : e.IsOfLocks)
    (hk : ∀ a, Avoids DeskError.IsOfLocks (k a)) :
    Faults (x >>= k) w (.error (.ofStorage e)) ↔ Faults x w (.error (.ofStorage e)) := by
  rw [faults_bind_iff, or_iff_left]
  rintro ⟨a, v, -, h⟩
  exact not_faults_of_avoids he (hk a) h

/-- A statement in an operation stops as it does by itself. -/
theorem faults_lift_ofStorage_iff {x : Statement α} :
    Faults (liftM x : Operation α) w (.error (.ofStorage e)) ↔ Stops x w (.error e) := by
  simp only [faults_lift_iff, Stop.error.injEq, DeskError.ofStorage_inj, reduceCtorEq, and_false,
    or_false, exists_eq_right']

/-- The timeout is refused, or it is set and then a row could not be had. -/
def IsRefusedOrHeld (timeout : Int) (w : World) (e : StorageError) (held : Prop) : Prop :=
  w.isOpen = true ∧ ((greatestLockTimeout < timeout ∧ e = .invalidSetting) ∨
    (timeout ≤ greatestLockTimeout ∧ e = .lockNotAvailable ∧ held))

/-- The timeout is set before anything else. -/
theorem faults_locking_iff_of_body {timeout : Int} (he : e.IsOfLocks)
    (hx : w.isOpen = true → (Faults x w (.error (.ofStorage e)) ↔ e = .lockNotAvailable ∧ p)) :
    Faults (locking timeout x) w (.error (.ofStorage e)) ↔ IsRefusedOrHeld timeout w e p := by
  have hset : Faults (locking timeout x) w (.error (.ofStorage e)) ↔
      Faults (liftM (setLockTimeout timeout) >>= fun _ => x) w (.error (.ofStorage e)) := by
    rw [faults_ofStorage_iff, faults_ofStorage_iff]
    exact stops_transaction_iff
  rw [hset, faults_bind_iff, faults_lift_ofStorage_iff, setLockTimeout_stops_iff he]
  simp only [lift_ok_iff, setLockTimeout_ok_iff]
  constructor
  · rintro (⟨ho, h⟩ | ⟨_, _, ⟨ho, htimeout, rfl⟩, h⟩)
    · exact ⟨ho, .inl h⟩
    · exact ⟨ho, .inr ⟨htimeout, (hx ho).1 h⟩⟩
  · rintro ⟨ho, h | ⟨htimeout, h⟩⟩
    · exact .inl ⟨ho, h⟩
    · exact .inr ⟨(), w, ⟨ho, htimeout, rfl⟩, (hx ho).2 h⟩

/-- A row is locked, it has to be there, and then the operation goes on with it. -/
theorem faults_lockRow_iff {x : Statement (Option α)} {d : DeskError} {k : α → Operation β}
    (row? : Option α) (Held Readable : α → Prop) {q : α → Prop} (hd : d.isCallerError = true)
    (hstops : Stops x w (.error e) ↔ e = .lockNotAvailable ∧ ∃ a ∈ row?, Held a)
    (hok : ∀ found v,
      x w = (.ok found, v) ↔ (∀ a ∈ row?, ¬ Held a ∧ Readable a) ∧ row? = found ∧ w = v)
    (hk : ∀ a ∈ row?, ¬ Held a →
      (Faults (k a) w (.error (.ofStorage e)) ↔ e = .lockNotAvailable ∧ q a)) :
    Faults ((liftM x : Operation (Option α)) >>= fun found => orFail d found >>= k) w
        (.error (.ofStorage e)) ↔
      e = .lockNotAvailable ∧ ∃ a ∈ row?, Held a ∨ (Readable a ∧ q a) := by
  rw [faults_bind_iff, faults_lift_ofStorage_iff, hstops]
  simp only [faults_orFail_bind_iff hd, lift_ok_iff, hok]
  constructor
  · rintro (⟨he, a, ha, hheld⟩ | ⟨_, _, ⟨hfree, rfl, rfl⟩, a, ha, hfault⟩)
    · exact ⟨he, a, ha, .inl hheld⟩
    · obtain ⟨hnot, hreadable⟩ := hfree a ha
      obtain ⟨he, hq⟩ := (hk a ha hnot).1 hfault
      exact ⟨he, a, ha, .inr ⟨hreadable, hq⟩⟩
  · rintro ⟨he, a, ha, h⟩
    by_cases hheld : Held a
    · exact .inl ⟨he, a, ha, hheld⟩
    · obtain ⟨hreadable, hq⟩ := h.resolve_left hheld
      refine .inr ⟨row?, w, ⟨?_, rfl, rfl⟩, a, ha, (hk a ha hheld).2 ⟨he, hq⟩⟩
      rintro b hb
      cases Option.mem_unique ha hb
      exact ⟨hheld, hreadable⟩

end Operation

namespace Desk

open Operation

variable {timeout : Int} {w : World} {e : StorageError}

/-! ### What a call comes to -/

/-- The call sets the lock timeout. -/
def Call.SetsLockTimeout (w : World) (c : Call) : Prop :=
  w.isOpen = true ∧ match c with
    | .assignStaff _ user => ∃ u ∈ w.tables.user? user, u.role.isStaffLike = true
    | c => c.locksRows = true

/-- Of the refreshes that a pass writes, those before the first that the store does not take. -/
def writtenFirst (fs : List Flight.Refresh) : List Flight.Refresh :=
  fs.takeWhile fun f => decide (Storable (Requests.refreshArguments f))

/-- The call comes to a row that it locks or writes, and another session holds it. -/
def Call.MeetsHeldRow (w : World) (c : Call) : Prop :=
  w.isOpen = true ∧ match c with
    | .assign shift request =>
      ∃ l ∈ Shifts.lockedOf w.tables shift, l.id ∈ w.heldShifts ∨ w.HoldsRequest request
    | .unassign shift request =>
      ∃ s ∈ w.tables.shift? shift,
        s.id ∈ w.heldShifts ∨ (s.isReadable = true ∧ w.HoldsRequest request)
    | .publishShift shift =>
      ∃ s ∈ w.tables.shift? shift, s.id ∈ w.heldShifts ∨
        (s.isReadable = true ∧ ∃ r ∈ w.tables.requestsOn shift, r.id ∈ w.heldRequests)
    | .assignStaff shift user =>
      (∃ u ∈ w.tables.user? user, u.role.isStaffLike = true) ∧ w.HoldsShift shift
    | .removeStaff shift _ => w.HoldsShift shift
    | .editRequest rider request _ =>
      ∃ r ∈ w.tables.request? request, r.userId = rider ∧ r.id ∈ w.heldRequests
    | .updateShift shift change =>
      change.patch.isEmpty = false ∧ Shifts.DriverExists w.tables change.patch ∧
        Storable (optionalTime change.patch.departureTime) ∧ w.HoldsShift shift
    | .syncFlights network base date =>
      Storable [.date date] ∧ ∃ b ∈ Flight.baseOf base,
        (lookups network b date w.tables).any isPastCalendar = false ∧
        ∃ f ∈ writtenFirst (refreshesOf (lookups network b date w.tables)), w.HoldsSome f.reaches
    | _ => False

/-! ### Calls that have nothing to do with locks -/

theorem avoids_of_isCallerError {α : Type} {d : DeskError} (h : d.isCallerError = true) :
    Avoids DeskError.IsOfLocks (fail d : Operation α) :=
  .fail (DeskError.not_isOfLocks_of_isCallerError h)

theorem avoids_orFail {α : Type} {d : DeskError} (h : d.isCallerError = true) (a? : Option α) :
    Avoids DeskError.IsOfLocks (orFail d a?) :=
  .orFail (DeskError.not_isOfLocks_of_isCallerError h) a?

theorem avoids_accepted {α : Type} (r : Except Refusal α) :
    Avoids DeskError.IsOfLocks (accepted r) := by
  cases r with
  | error refusal => exact avoids_of_isCallerError (isCallerError_ofRefusal refusal)
  | ok a => exact .pure a

theorem avoids_inCalendar {α : Type} (a? : Option α) :
    Avoids DeskError.IsOfLocks (inCalendar a?) := by
  cases a? with
  | none => exact .overflow
  | some a => exact .pure a

theorem avoids_createRequest (rider : Int) (input : RequestInput) :
    Avoids DeskError.IsOfLocks (createRequest rider input) := by
  have hvalidate : ∀ d, input.validate = .error d → ¬ d.IsOfLocks :=
    fun _ h => DeskError.not_isOfLocks_of_isCallerError (isCallerError_of_check h)
  refine .bind (.lift (avoids_query _)) fun n => .ite (avoids_of_isCallerError rfl) ?_
  refine .bind (.ofExcept hvalidate) fun _ => .bind (avoids_accepted _) fun date => ?_
  refine .bind (avoids_accepted _) fun arrival => .bind (avoids_inCalendar _) fun values => ?_
  exact .lift (Requests.avoids_insert _ _)

theorem avoids_listRequests (rider : Int) : Avoids DeskError.IsOfLocks (listRequests rider) := by
  refine .bind (.lift (Requests.avoids_listOf rider)) fun rs => ?_
  refine .ite (.bind (.pure _) fun _ => .pure _) ?_
  exact .bind (.lift (Shifts.avoids_summaries _)) fun _ => .pure _

theorem avoids_existingDriver (id : Int) : Avoids DeskError.IsOfLocks (existingDriver id) :=
  .bind (.lift (avoids_query _)) fun _ => avoids_orFail rfl _

theorem avoids_existingUser (id : Int) : Avoids DeskError.IsOfLocks (existingUser id) :=
  .bind (.lift (avoids_query _)) fun _ => avoids_orFail rfl _

theorem avoids_createShift (driver : Int) (departure : Calendar.DateTime) :
    Avoids DeskError.IsOfLocks (createShift driver departure) :=
  .bind (avoids_existingDriver driver) fun _ => .lift (Shifts.avoids_insert _ _)

theorem avoids_dashboard : Avoids DeskError.IsOfLocks dashboard := by
  refine .bind (.lift Shifts.avoids_list) fun ss => ?_
  induction ss with
  | nil => exact .pure _
  | cons s ss ih =>
    refine .bind ?_ fun _ => .bind ih fun _ => .pure _
    refine .bind (.lift (avoids_query _)) fun _ => ?_
    refine .bind (.lift (Requests.avoids_listOn _)) fun _ => ?_
    exact .bind (.lift (avoids_query _)) fun _ => .pure _

theorem avoids_checkProfile (input : DriverInput) :
    Avoids DeskError.IsOfLocks (ofExcept (checkProfile input)) :=
  .ofExcept fun _ h => DeskError.not_isOfLocks_of_isCallerError (isCallerError_of_checkProfile h)

theorem avoids_changeRole (user : Int) (role : Role) :
    Avoids DeskError.IsOfLocks (changeRole user role) := by
  refine .bind (avoids_existingUser user) fun u => .ite (avoids_of_isCallerError rfl) ?_
  exact .bind (.lift (Users.avoids_setRole _ _)) fun _ => avoids_orFail rfl _

/-! ### Operations that lock rows -/

section

variable {β : Type}

theorem faults_lockShift_iff (he : e.IsOfLocks) (ho : w.isOpen = true) {shift : Int}
    {k : Shift → Operation β} {q : Shift → Prop}
    (hk : ∀ s ∈ w.tables.shift? shift, s.id ∉ w.heldShifts →
      (Faults (k s) w (.error (.ofStorage e)) ↔ e = .lockNotAvailable ∧ q s)) :
    Faults (do
        let s ← orFail (.shiftNotFound shift) (← liftM (Shifts.lock shift))
        k s) w (.error (.ofStorage e)) ↔
      e = .lockNotAvailable ∧
        ∃ s ∈ w.tables.shift? shift, s.id ∈ w.heldShifts ∨ (s.isReadable = true ∧ q s) := by
  refine faults_lockRow_iff (w.tables.shift? shift) (·.id ∈ w.heldShifts) (·.isReadable = true) rfl
    ?_ ?_ hk
  · rw [Shifts.lock_stops_iff he, and_iff_right ho]
    rfl
  · intro found v
    rw [Shifts.lock_ok_iff, and_iff_right ho]
    rfl

/-- A shift is locked, and what comes next has nothing to do with locks. -/
theorem faults_lockingShift_iff (he : e.IsOfLocks) {shift : Int} {k : Shift → Operation β}
    (hk : ∀ s, Avoids DeskError.IsOfLocks (k s)) :
    Faults (locking timeout do
        let s ← orFail (.shiftNotFound shift) (← liftM (Shifts.lock shift))
        k s) w (.error (.ofStorage e)) ↔
      IsRefusedOrHeld timeout w e (w.HoldsShift shift) := by
  refine faults_locking_iff_of_body he fun ho => ?_
  refine (faults_lockShift_iff (q := fun _ => False) he ho fun s _ _ => ?_).trans ?_
  · simpa using not_faults_of_avoids he (hk s)
  · simp [World.HoldsShift]

/-- A request is locked, and what comes next has nothing more to wait for. -/
theorem faults_lockRequest_iff (he : e.IsOfLocks) (ho : w.isOpen = true) {request : Int}
    {k : Request → Operation β}
    (hk : ∀ r ∈ w.tables.request? request, r.id ∉ w.heldRequests →
      ¬ Faults (k r) w (.error (.ofStorage e))) :
    Faults (do
        let r ← orFail (.requestNotFound request) (← liftM (Requests.lock request))
        k r) w (.error (.ofStorage e)) ↔
      e = .lockNotAvailable ∧ w.HoldsRequest request := by
  refine (faults_lockRow_iff (w.tables.request? request) (·.id ∈ w.heldRequests)
    (·.isReadable = true) (q := fun _ => False) rfl ?_ ?_ fun r hr hfree => ?_).trans ?_
  · rw [Requests.lock_stops_iff he, and_iff_right ho]
    rfl
  · intro found v
    rw [Requests.lock_ok_iff, and_iff_right ho]
    rfl
  · simpa using hk r hr hfree
  · simp [World.HoldsRequest]

end

/-- A row that has been locked is written without waiting. -/
theorem not_faults_setStatus (he : e.IsOfLocks) {request : Int} {status : RequestStatus}
    (hfree : ¬ w.HoldsRequest request) :
    ¬ Faults (liftM (Requests.setStatus request status) : Operation Unit) w
      (.error (.ofStorage e)) := by
  rw [faults_lift_ofStorage_iff, Requests.setStatus_stops_iff he]
  exact fun h => hfree h.2.2

theorem not_holdsRequest {request : Int} {r : Request} (hr : r ∈ w.tables.request? request)
    (hfree : r.id ∉ w.heldRequests) : ¬ w.HoldsRequest request := by
  rintro ⟨row, hrow, hheld⟩
  cases Option.mem_unique hr hrow
  exact hfree hheld

theorem bindError_isOfLocks {request : Int} (he : (bindError request e).IsOfLocks) :
    e.IsOfLocks := by
  unfold bindError at he
  split at he
  · exact absurd he (DeskError.not_isOfLocks_of_isCallerError rfl)
  · exact DeskError.isOfLocks_ofStorage.1 he

theorem assign_faults_iff (he : e.IsOfLocks) {shift request : Int} :
    Faults (assign timeout shift request) w (.error (.ofStorage e)) ↔
      IsRefusedOrHeld timeout w e
        (∃ l ∈ Shifts.lockedOf w.tables shift, l.id ∈ w.heldShifts ∨ w.HoldsRequest request) := by
  refine faults_locking_iff_of_body he fun ho => ?_
  refine (faults_lockRow_iff (Shifts.lockedOf w.tables shift) (·.id ∈ w.heldShifts)
    (fun _ => True) rfl ?_ ?_ fun l _ _ =>
      faults_lockRequest_iff he ho fun r hr hfree => ?_).trans (by simp only [true_and])
  · rw [Shifts.lockWithCapacity_stops_iff he, and_iff_right ho]
  · intro found v
    simp only [Shifts.lockWithCapacity_ok_iff, ho, true_and, and_true]
  · rw [faults_ite_iff, faults_fail_iff rfl,
      faults_bind_iff_of_avoids he (.lift (Shifts.avoids_load _))]
    rintro (⟨-, h⟩ | ⟨-, load, v, hload, h⟩)
    · exact h
    obtain ⟨-, -, rfl⟩ := Shifts.load_ok_iff.1 (lift_ok_iff.1 hload)
    obtain ⟨_, v, hbound, h⟩ := (faults_bind_iff_of_avoids he (.mapError
      (fun _ => bindError_isOfLocks) (Bindings.avoids_insert shift request))).1 h
    -- a new binding leaves the requests and what is held of them alone
    obtain ⟨-, -, -, -, rfl⟩ := Bindings.insert_ok_iff.1 (mapError_ok_iff.1 hbound)
    refine not_faults_setStatus he ?_ ((faults_bind_iff_of_then_avoids he fun _ => .pure _).1 h)
    exact not_holdsRequest hr hfree

theorem unassign_faults_iff (he : e.IsOfLocks) {shift request : Int} :
    Faults (unassign timeout shift request) w (.error (.ofStorage e)) ↔
      IsRefusedOrHeld timeout w e (∃ s ∈ w.tables.shift? shift,
        s.id ∈ w.heldShifts ∨ (s.isReadable = true ∧ w.HoldsRequest request)) := by
  refine faults_locking_iff_of_body he fun ho => ?_
  refine faults_lockShift_iff he ho fun s _ _ => faults_lockRequest_iff he ho fun r hr hfree => ?_
  rw [faults_ite_iff, faults_fail_iff rfl,
    faults_bind_iff_of_avoids he (.lift (Bindings.avoids_delete _ _))]
  rintro (⟨-, h⟩ | ⟨-, found, v, hunbound, h⟩)
  · exact h
  obtain ⟨-, -, rfl⟩ := Bindings.delete_ok_iff.1 (lift_ok_iff.1 hunbound)
  rcases faults_ite_iff.1 h with ⟨-, h⟩ | ⟨-, h⟩
  · refine not_faults_setStatus he ?_ h
    exact not_holdsRequest hr hfree
  · exact (faults_fail_iff rfl).1 h

theorem publishShift_faults_iff (he : e.IsOfLocks) {shift : Int} :
    Faults (publishShift timeout shift) w (.error (.ofStorage e)) ↔
      IsRefusedOrHeld timeout w e (∃ s ∈ w.tables.shift? shift, s.id ∈ w.heldShifts ∨
        (s.isReadable = true ∧ ∃ r ∈ w.tables.requestsOn shift, r.id ∈ w.heldRequests)) := by
  refine faults_locking_iff_of_body he fun ho => ?_
  refine faults_lockShift_iff he ho fun s hs hfree => ?_
  have hset : (liftM (Shifts.setStatus shift .published) : Operation Unit) w
      = (.ok (), w.withTables (w.tables.publishShift shift)) := by
    refine lift_ok_iff.2 (Shifts.setStatus_ok_iff.2 ⟨ho, ?_, rfl⟩)
    rintro s' hs'
    cases Option.mem_unique hs hs'
    exact hfree
  -- the requests are met after the shift has been written, and are the same as before
  rw [faults_bind_of_ok hset, faults_lift_ofStorage_iff, Requests.publishOn_stops_iff he]
  exact and_iff_right ho

theorem assignStaff_faults_iff (he : e.IsOfLocks) {shift user : Int} :
    Faults (assignStaff timeout shift user) w (.error (.ofStorage e)) ↔
      (∃ u ∈ w.tables.user? user, u.role.isStaffLike = true) ∧
        IsRefusedOrHeld timeout w e (w.HoldsShift shift) := by
  have hnotStaff : (DeskError.notStaffRole user).isCallerError = true := rfl
  unfold assignStaff
  rw [faults_bind_iff_of_avoids he (avoids_existingUser user)]
  simp only [existingUser_ok_iff, faults_ite_iff, faults_fail_iff hnotStaff, and_false, false_or,
    Bool.not_eq_true', Bool.not_eq_false]
  have hinsert : ∀ _ : Shift, Avoids DeskError.IsOfLocks (do
      let _ ← liftM (Staffings.insert shift user)
      return () : Operation Unit) :=
    fun _ => .bind (.lift (Staffings.avoids_insert _ _)) fun _ => .pure _
  constructor
  · rintro ⟨u, _, ⟨-, hu, rfl⟩, hstaff, h⟩
    exact ⟨⟨u, hu, hstaff⟩, (faults_lockingShift_iff he hinsert).1 h⟩
  · rintro ⟨⟨u, hu, hstaff⟩, h⟩
    exact ⟨u, w, ⟨h.1, hu, rfl⟩, hstaff, (faults_lockingShift_iff he hinsert).2 h⟩

theorem removeStaff_faults_iff (he : e.IsOfLocks) {shift user : Int} :
    Faults (removeStaff timeout shift user) w (.error (.ofStorage e)) ↔
      IsRefusedOrHeld timeout w e (w.HoldsShift shift) :=
  faults_lockingShift_iff he fun _ => .bind (.lift (Staffings.avoids_delete _ _)) fun _ => .pure _

theorem editRequest_faults_iff (he : e.IsOfLocks) {rider request : Int} {edit : RequestEdit} :
    Faults (editRequest timeout rider request edit) w (.error (.ofStorage e)) ↔
      IsRefusedOrHeld timeout w e
        (∃ r ∈ w.tables.request? request, r.userId = rider ∧ r.id ∈ w.heldRequests) := by
  have hvalidate : ∀ e, edit.validate = .error e → e.isCallerError = true :=
    fun _ => isCallerError_of_check
  have hstate : ∀ reason, (DeskError.invalidState reason).isCallerError = true := fun _ => rfl
  refine faults_locking_iff_of_body he fun ho => ?_
  refine (faults_lockRow_iff ((w.tables.request? request).filter (·.userId == rider))
    (·.id ∈ w.heldRequests) (·.isReadable = true) (q := fun _ => False) rfl ?_ ?_ fun r hr hfree =>
      ?_).trans ?_
  · rw [Requests.lockOwned_stops_iff he, and_iff_right ho]
  · intro found v
    rw [Requests.lockOwned_ok_iff, and_iff_right ho]
    rfl
  · simp only [faults_ite_iff, faults_fail_iff (hstate _), and_false, false_or,
      faults_ofExcept_bind_iff hvalidate, faults_accepted_bind_iff, faults_inCalendar_bind_iff,
      reduceCtorEq, iff_false]
    rintro ⟨-, -, -, change, -, after, hafter, h⟩
    rw [faults_lift_ofStorage_iff, Requests.saveDetails_stops_iff he] at h
    obtain ⟨-, -, -, -, hheld⟩ := h
    -- the row that is saved is the row that was locked
    obtain ⟨hrow, -⟩ := Option.filter_eq_some_iff.1 hr
    have hid : after.id = request :=
      (RequestChange.after?_id hafter).trans (Tables.mem_of_request? hrow).2
    rw [hid] at hheld
    exact not_holdsRequest hrow hfree hheld
  · simp [Option.filter_eq_some_iff, and_assoc]

/-! ### Operations that meet held rows and set no timeout -/

theorem updateShift_faults_iff (he : e.IsOfLocks) {shift : Int} {change : ShiftChange} :
    Faults (updateShift shift change) w (.error (.ofStorage e)) ↔
      e = .lockNotAvailable ∧ (Call.updateShift shift change).MeetsHeldRow w := by
  have hlookup : ∀ d, ¬ Faults (existingDriver d) w (.error (.ofStorage e)) :=
    fun d => not_faults_of_avoids he (avoids_existingDriver d)
  rw [faults_updateShift_iff_of_lookup hlookup, faults_bind_orFail_iff rfl,
    faults_lift_ofStorage_iff, Shifts.update_stops_iff he]
  constructor
  · rintro ⟨hnamed, -, hknown, ho, hstorable, hlock, hheld⟩
    exact ⟨hlock, ho, hnamed, hknown, hstorable, hheld⟩
  · rintro ⟨hlock, ho, hnamed, hknown, hstorable, hheld⟩
    exact ⟨hnamed, fun _ => ho, hknown, ho, hstorable, hlock, hheld⟩

theorem holdsSome_refresh {f g : Flight.Refresh} :
    (w.withTables (w.tables.refresh w.now f)).HoldsSome g.reaches ↔ w.HoldsSome g.reaches := by
  rw [← not_iff_not, Requests.not_holdsSome_iff, Requests.not_holdsSome_iff, areFree_refresh]

theorem applyAll_faults_iff (he : e.IsOfLocks) (ho : w.isOpen = true) {fs : List Flight.Refresh} :
    Faults (applyAll fs) w (.error (.ofStorage e)) ↔
      e = .lockNotAvailable ∧ ∃ f ∈ writtenFirst fs, w.HoldsSome f.reaches := by
  induction fs generalizing w with
  | nil => simpa [writtenFirst, applyAll] using not_faults_of_avoids he (.pure 0)
  | cons f fs ih =>
    rw [applyAll, faults_bind_iff, faults_lift_ofStorage_iff, Requests.applyRefresh_stops_iff he]
    simp only [faults_bind_iff_of_then_avoids he fun _ => .pure _, lift_ok_iff,
      Requests.applyRefresh_ok_iff]
    by_cases hstorable : Storable (Requests.refreshArguments f)
    · have hcons : writtenFirst (f :: fs) = f :: writtenFirst fs := by
        simp [writtenFirst, hstorable]
      rw [hcons, List.exists_mem_cons_iff]
      by_cases hheld : w.HoldsSome f.reaches
      · -- what a row that is met first is held for does not matter any more
        simp [ho, hstorable, hheld, ← Requests.not_holdsSome_iff]
      · have hfree := Requests.not_holdsSome_iff.1 hheld
        have hwritten := ih (w := w.withTables (w.tables.refresh w.now f)) ho
        simp only [holdsSome_refresh] at hwritten
        simp [ho, hstorable, hheld, hfree, hwritten]
    · have hcons : writtenFirst (f :: fs) = [] := by simp [writtenFirst, hstorable]
      simp [hcons, hstorable]

theorem writeRefreshes_faults_iff (he : e.IsOfLocks) (ho : w.isOpen = true)
    {fs : List Flight.Refresh} :
    Faults (writeRefreshes fs) w (.error (.ofStorage e)) ↔
      e = .lockNotAvailable ∧ ∃ f ∈ writtenFirst fs, w.HoldsSome f.reaches := by
  rw [← applyAll_faults_iff he ho]
  cases fs with
  | nil => rfl
  | cons f fs =>
    rw [faults_ofStorage_iff, faults_ofStorage_iff]
    exact stops_transaction_iff

theorem syncDate_faults_iff (he : e.IsOfLocks) {network : Flight.Network} {base : Option String}
    {date : Calendar.Date} :
    Faults (syncDate network base date) w (.error (.ofStorage e)) ↔
      e = .lockNotAvailable ∧ (Call.syncFlights network base date).MeetsHeldRow w := by
  unfold syncDate Call.MeetsHeldRow
  cases hb : Flight.baseOf base with
  | none => simpa [hb] using not_faults_of_avoids he (.pure _)
  | some b =>
    dsimp only
    rw [faults_bind_iff_of_avoids he (.lift (Requests.avoids_flightsOn date))]
    simp only [lift_ok_iff, Requests.flightsOn_ok_iff, faults_ite_iff,
      faults_bind_iff_of_then_avoids he fun _ => .pure _]
    constructor
    · rintro ⟨_, _, ⟨ho, hs, rfl, rfl⟩, ⟨-, h⟩ | ⟨hpast, h⟩⟩
      · exact absurd h (not_faults_of_avoids he .overflow)
      · obtain ⟨hheld, f, hf, hrows⟩ := (writeRefreshes_faults_iff he ho).1 h
        exact ⟨hheld, ho, hs, b, hb, Bool.eq_false_iff.2 hpast, f, hf, hrows⟩
    · rintro ⟨hheld, ho, hs, b', hb', hpast, f, hf, hrows⟩
      cases hb.symm.trans hb'
      have h := (writeRefreshes_faults_iff he ho).2 ⟨hheld, f, hf, hrows⟩
      exact ⟨_, w, ⟨ho, hs, rfl, rfl⟩, .inr ⟨Bool.eq_false_iff.1 hpast, h⟩⟩

/-! ### Calls -/

theorem Call.locksRows_of_setsLockTimeout {c : Call} (h : c.SetsLockTimeout w) :
    c.locksRows = true := by
  cases c with
  | assignStaff shift user => rfl
  | _ => exact h.2

/-- A call stops because of locks in one of two ways: the timeout that it sets is refused, or it
meets a held row. -/
theorem stops_perform_iff (he : e.IsOfLocks) (timeout : Int) (c : Call) (w : World) :
    Stops (c.perform timeout) w (.error (.ofStorage e)) ↔
      (e = .invalidSetting ∧ greatestLockTimeout < timeout ∧ c.SetsLockTimeout w) ∨
      (e = .lockNotAvailable ∧ c.MeetsHeldRow w ∧
        (c.locksRows = true → timeout ≤ greatestLockTimeout)) := by
  have hplain : ∀ {α : Type} (f : α → Answer) {x : Operation α},
      Avoids DeskError.IsOfLocks x → c.locksRows = false → ¬ c.MeetsHeldRow w →
      (Stops (f <$> x) w (.error (.ofStorage e)) ↔
        (e = .invalidSetting ∧ greatestLockTimeout < timeout ∧ c.SetsLockTimeout w) ∨
        (e = .lockNotAvailable ∧ c.MeetsHeldRow w ∧
          (c.locksRows = true → timeout ≤ greatestLockTimeout))) := by
    intro α f x hx hlocks hmeets
    refine iff_of_false (hx.map f w _ (DeskError.isOfLocks_ofStorage.2 he)) ?_
    rintro (⟨-, -, hsets⟩ | ⟨-, h, -⟩)
    · rw [Call.locksRows_of_setsLockTimeout hsets] at hlocks
      cases hlocks
    · exact hmeets h
  have hmap : ∀ {α : Type} (f : α → Answer) (x : Operation α),
      Stops (f <$> x) w (.error (.ofStorage e)) ↔ Faults x w (.error (.ofStorage e)) := by
    intro α f x
    rw [← faults_ofStorage_iff, faults_map_iff]
  have hlocking : ∀ {α : Type} (f : α → Answer) {x : Operation α} {held : Prop},
      (Faults x w (.error (.ofStorage e)) ↔ IsRefusedOrHeld timeout w e held) →
      c.locksRows = true → (c.SetsLockTimeout w ↔ w.isOpen = true) →
      (c.MeetsHeldRow w ↔ w.isOpen = true ∧ held) →
      (Stops (f <$> x) w (.error (.ofStorage e)) ↔
        (e = .invalidSetting ∧ greatestLockTimeout < timeout ∧ c.SetsLockTimeout w) ∨
        (e = .lockNotAvailable ∧ c.MeetsHeldRow w ∧
          (c.locksRows = true → timeout ≤ greatestLockTimeout))) := by
    intro α f x held hx hlocks hsets hmeets
    rw [hmap, hx, hsets, hmeets, imp_iff_right hlocks, IsRefusedOrHeld]
    grind
  cases c with
  | createRequest rider input =>
    exact hplain _ (avoids_createRequest rider input) rfl fun h => h.2
  | listRequests rider => exact hplain _ (avoids_listRequests rider) rfl fun h => h.2
  | createShift driver departure =>
    exact hplain _ (avoids_createShift driver departure) rfl fun h => h.2
  | updateShift shift change =>
    refine (hmap _ _).trans ((updateShift_faults_iff he).trans ?_)
    simp [Call.SetsLockTimeout, Call.locksRows]
  | dashboard => exact hplain _ avoids_dashboard rfl fun h => h.2
  | pendingRequests => exact hplain _ (.lift (Requests.avoids_listIn _)) rfl fun h => h.2
  | listDrivers => exact hplain _ (.lift (avoids_query _)) rfl fun h => h.2
  | createDriver input =>
    exact hplain _ (.bind (avoids_checkProfile input) fun _ => .lift (Drivers.avoids_insert _)) rfl
      fun h => h.2
  | updateDriver driver input =>
    refine hplain _ (.bind (avoids_checkProfile input) fun _ => ?_) rfl fun h => h.2
    exact .bind (.lift (Drivers.avoids_update _ _)) fun _ => avoids_orFail rfl _
  | listUsers => exact hplain _ (.lift (avoids_query _)) rfl fun h => h.2
  | setStaff user => exact hplain _ (avoids_changeRole user .staff) rfl fun h => h.2
  | unsetStaff user => exact hplain _ (avoids_changeRole user .student) rfl fun h => h.2
  | editRequest rider request edit =>
    exact hlocking _ (editRequest_faults_iff he) rfl (and_iff_left rfl) .rfl
  | assign shift request =>
    exact hlocking _ (assign_faults_iff he) rfl (and_iff_left rfl) .rfl
  | unassign shift request =>
    exact hlocking _ (unassign_faults_iff he) rfl (and_iff_left rfl) .rfl
  | publishShift shift =>
    exact hlocking _ (publishShift_faults_iff he) rfl (and_iff_left rfl) .rfl
  | removeStaff shift user =>
    exact hlocking _ (removeStaff_faults_iff he) rfl (and_iff_left rfl) .rfl
  | assignStaff shift user =>
    refine (hmap _ _).trans ((assignStaff_faults_iff he).trans ?_)
    simp only [IsRefusedOrHeld, Call.SetsLockTimeout, Call.MeetsHeldRow, Call.locksRows]
    grind
  | syncFlights network base date =>
    refine (hmap _ _).trans ((syncDate_faults_iff he).trans ?_)
    simp [Call.SetsLockTimeout, Call.locksRows]

end Desk

end ShuttleDesk
