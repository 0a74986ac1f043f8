/-
  ShuttleDesk/Proofs/Store/HeldRows.lean
  ======================================
  Which statements stop because of locks, and exactly when.  Two errors of the store are
  of this kind: a lock timeout cannot be set, and a row could not be had.

  The first one has a single statement that it can come from.  The second one comes from
  the statements that lock or change rows, and for each of them it is said below which
  rows have to be held.  All other statements stop with neither, whatever is held, and
  that is kept when they are put together.
-/
import ShuttleDesk.Proofs.Store.Stops

namespace ShuttleDesk

/-- A lock timeout cannot be set, or a row could not be had. -/
def StorageError.IsOfLocks (e : StorageError) : Prop := e = .invalidSetting ∨ e = .lockNotAvailable

instance : DecidablePred StorageError.IsOfLocks := fun e => by
  unfold StorageError.IsOfLocks
  infer_instance

/-- Another session holds one of the requests that are chosen. -/
def World.HoldsSome (w : World) (chosen : Request → Bool) : Prop :=
  ∃ r ∈ w.tables.requests, chosen r = true ∧ r.id ∈ w.heldRequests

namespace Procedure

variable {ε ε' α β : Type} {p : ε → Prop} {q : ε' → Prop} {x : Procedure ε α} {w : World}

/-- No error of this kind stops the procedure, in whatever world. -/
def Avoids (p : ε → Prop) (x : Procedure ε α) : Prop := ∀ w e, p e → ¬ Stops x w (.error e)

namespace Avoids

/-- What stops everywhere for a reason of another kind, if it stops. -/
theorem of_run (h : ∀ w e, (x w).1 = .error (.error e) → ¬ p e) : Avoids p x :=
  fun w e he hstops => h w e (stops_iff.1 hstops) he

theorem pure (a : α) : Avoids p (Pure.pure a : Procedure ε α) := by
  refine of_run fun w e h => ?_
  cases h

theorem fail {f : ε} (hf : ¬ p f) : Avoids p (Procedure.fail f : Procedure ε α) := by
  refine of_run fun w e h => ?_
  cases h
  exact hf

theorem overflow : Avoids p (Procedure.overflow : Procedure ε α) := by
  refine of_run fun w e h => ?_
  cases h

theorem world : Avoids p (Procedure.world : Procedure ε World) := by
  refine of_run fun w e h => ?_
  cases h

theorem change (f : World → World) : Avoids p (Procedure.change f : Procedure ε Unit) := by
  refine of_run fun w e h => ?_
  cases h

theorem bind {k : α → Procedure ε β} (hx : Avoids p x) (hk : ∀ a, Avoids p (k a)) :
    Avoids p (x >>= k) := by
  intro w e he hstops
  rcases stops_bind_iff.1 hstops with hstops | ⟨a, v, -, hstops⟩
  · exact hx w e he hstops
  · exact hk a v e he hstops

theorem map (f : α → β) (hx : Avoids p x) : Avoids p (f <$> x) := by
  rw [← bind_pure_comp]
  exact bind hx fun a => pure (f a)

theorem ite {c : Prop} [Decidable c] {y : Procedure ε α} (hx : Avoids p x) (hy : Avoids p y) :
    Avoids p (if c then x else y) := by
  by_cases h : c
  · rw [if_pos h]
    exact hx
  · rw [if_neg h]
    exact hy

theorem ofExcept {r : Except ε α} (h : ∀ e, r = .error e → ¬ p e) :
    Avoids p (Procedure.ofExcept r) := by
  cases r with
  | error e => exact fail (h e rfl)
  | ok a => exact pure a

theorem orFail {f : ε} (hf : ¬ p f) (a? : Option α) : Avoids p (Procedure.orFail f a?) := by
  cases a? with
  | none => exact fail hf
  | some a => exact pure a

/-- Another view of the errors that makes none of this kind out of others. -/
theorem mapError {f : ε → ε'} (hf : ∀ e, q (f e) → p e) (hx : Avoids p x) :
    Avoids q (x.mapError f) := by
  intro w d hd hstops
  rcases stops_mapError_iff.1 hstops with ⟨e, hx', hde⟩ | ⟨-, h⟩
  · cases hde
    exact hx w e (hf e hd) hx'
  · cases h

end Avoids

/-- After a part that avoids the error, only what comes next can stop with it. -/
theorem stops_bind_iff_of_avoids {k : α → Procedure ε β} {e : ε} (he : p e) (hx : Avoids p x) :
    Stops (x >>= k) w (.error e) ↔ ∃ a v, x w = (.ok a, v) ∧ Stops (k a) v (.error e) := by
  rw [stops_bind_iff, or_iff_right (hx w e he)]

/-- Before a part that avoids the error, only what stands there can stop with it. -/
theorem stops_bind_iff_of_then_avoids {k : α → Procedure ε β} {e : ε} (he : p e)
    (hk : ∀ a, Avoids p (k a)) : Stops (x >>= k) w (.error e) ↔ Stops x w (.error e) := by
  rw [stops_bind_iff, or_iff_left]
  rintro ⟨a, v, -, hstops⟩
  exact hk a v e he hstops

end Procedure

open Procedure StorageError

/-! ### Statements that have nothing to do with locks -/

namespace Statement

variable {α β : Type} {w : World} {e : StorageError}

theorem avoids_ensureOpen : Avoids IsOfLocks ensureOpen :=
  .bind .world fun _ => .ite (.pure _) (.fail (by decide))

theorem avoids_query (f : Tables → α) : Avoids IsOfLocks (query f) :=
  .bind avoids_ensureOpen fun _ => .bind .world fun _ => .pure _

theorem IsRefused.not_isOfLocks {args : List Argument} (h : IsRefused args e) : ¬ e.IsOfLocks := by
  rcases h.eq_or with rfl | rfl <;> decide

theorem avoids_checkArguments (args : List Argument) : Avoids IsOfLocks (checkArguments args) := by
  refine .bind avoids_ensureOpen fun _ => ?_
  cases hflaw : args.findSome? Argument.flaw? with
  | none => exact .pure _
  | some e =>
    have hrefused : IsRefused args e := hflaw
    exact .fail hrefused.not_isOfLocks

theorem avoids_readable (isReadable : α → Bool) (rows : List α) :
    Avoids IsOfLocks (readable isReadable rows) :=
  .ite (.pure _) .overflow

theorem avoids_readableRow (isReadable : α → Bool) (row : α) :
    Avoids IsOfLocks (readableRow isReadable row) :=
  .ite (.pure _) .overflow

theorem avoids_readableRow? (isReadable : α → Bool) (row : Option α) :
    Avoids IsOfLocks (readableRow? isReadable row) :=
  .ite (.pure _) .overflow

end Statement

open Statement

namespace Requests

theorem avoids_insert (user : Int) (n : NewRequest) : Avoids IsOfLocks (insert user n) := by
  refine .bind (avoids_checkArguments _) fun _ => .bind (.bind (.change _) fun _ => ?_) fun _ => ?_
  · exact .bind .world fun _ => .pure _
  · refine .bind .world fun _ => .ite (.fail (by decide)) (.ite (.fail (by decide)) ?_)
    exact .bind (.change _) fun _ => avoids_readableRow _ _

theorem avoids_find? (id : Int) : Avoids IsOfLocks (find? id) :=
  .bind (avoids_query _) fun _ => avoids_readableRow? _ _

theorem avoids_listOf (user : Int) : Avoids IsOfLocks (listOf user) :=
  .bind (avoids_query _) fun _ => avoids_readable _ _

theorem avoids_listIn (status : RequestStatus) : Avoids IsOfLocks (listIn status) :=
  .bind (avoids_query _) fun _ => avoids_readable _ _

theorem avoids_listOn (shift : Int) : Avoids IsOfLocks (listOn shift) :=
  .bind (avoids_query _) fun _ => avoids_readable _ _

theorem avoids_flightsOn (date : Calendar.Date) : Avoids IsOfLocks (flightsOn date) :=
  .bind (avoids_checkArguments _) fun _ => avoids_query _

end Requests

namespace Shifts

theorem avoids_insert (driver : Int) (departure : Calendar.WallClock) :
    Avoids IsOfLocks (insert driver departure) := by
  refine .bind (avoids_checkArguments _) fun _ => .bind (.bind (.change _) fun _ => ?_) fun _ => ?_
  · exact .bind .world fun _ => .pure _
  · refine .bind .world fun _ => .ite (.fail (by decide)) ?_
    exact .bind (.change _) fun _ => avoids_readableRow _ _

theorem avoids_find? (id : Int) : Avoids IsOfLocks (find? id) :=
  .bind (avoids_query _) fun _ => avoids_readableRow? _ _

theorem avoids_list : Avoids IsOfLocks list :=
  .bind (avoids_query _) fun _ => avoids_readable _ _

theorem avoids_load (id : Int) : Avoids IsOfLocks (load id) := avoids_query _

theorem avoids_summaries (requests : List Int) : Avoids IsOfLocks (summaries requests) :=
  .bind (avoids_query _) fun _ => avoids_readable _ _

end Shifts

theorem Bindings.avoids_insert (shift request : Int) : Avoids IsOfLocks (insert shift request) :=
  .bind avoids_ensureOpen fun _ => .bind .world fun _ => .ite (.fail (by decide))
    (.ite (.fail (by decide)) (.ite (.fail (by decide)) (.change _)))

theorem Bindings.avoids_delete (shift request : Int) : Avoids IsOfLocks (delete shift request) :=
  .bind avoids_ensureOpen fun _ => .bind .world fun _ => .bind (.change _) fun _ => .pure _

theorem Staffings.avoids_insert (shift staff : Int) : Avoids IsOfLocks (insert shift staff) :=
  .bind avoids_ensureOpen fun _ => .bind .world fun _ =>
    .ite (.pure _) (.ite (.fail (by decide)) (.bind (.change _) fun _ => .pure _))

theorem Staffings.avoids_delete (shift staff : Int) : Avoids IsOfLocks (delete shift staff) :=
  .bind avoids_ensureOpen fun _ => .bind .world fun _ => .bind (.change _) fun _ => .pure _

theorem Drivers.avoids_insert (input : DriverInput) : Avoids IsOfLocks (insert input) := by
  refine .bind (avoids_checkArguments _) fun _ => .bind (.bind (.change _) fun _ => ?_) fun _ => ?_
  · exact .bind .world fun _ => .pure _
  · exact .ite (.bind (.change _) fun _ => .pure _) (.fail (by decide))

theorem Drivers.avoids_update (id : Int) (input : DriverInput) :
    Avoids IsOfLocks (update id input) := by
  refine .bind (avoids_checkArguments _) fun _ => .bind (avoids_query _) fun found => ?_
  cases found with
  | none => exact .pure _
  | some d => exact .ite (.bind (.change _) fun _ => .pure _) (.fail (by decide))

theorem Users.avoids_setRole (id : Int) (role : Role) : Avoids IsOfLocks (setRole id role) :=
  .bind avoids_ensureOpen fun _ => .bind .world fun _ => .bind (.change _) fun _ => avoids_query _

/-! ### Statements that have to do with locks -/

section Locks

variable {α β : Type} {w : World} {e : StorageError}

namespace Statement

theorem stops_ensureOpen_bind_iff {k : Unit → Statement β} (he : e.IsOfLocks) :
    Stops (ensureOpen >>= k) w (.error e) ↔ w.isOpen = true ∧ Stops (k ()) w (.error e) := by
  rw [stops_bind_iff_of_avoids he avoids_ensureOpen]
  simp only [ensureOpen_ok_iff]
  constructor
  · rintro ⟨_, _, ⟨ho, rfl⟩, h⟩
    exact ⟨ho, h⟩
  · rintro ⟨ho, h⟩
    exact ⟨(), w, ⟨ho, rfl⟩, h⟩

theorem stops_query_bind_iff {f : Tables → α} {k : α → Statement β} (he : e.IsOfLocks) :
    Stops (query f >>= k) w (.error e) ↔
      w.isOpen = true ∧ Stops (k (f w.tables)) w (.error e) := by
  rw [stops_bind_iff_of_avoids he (avoids_query f)]
  simp only [query_ok_iff]
  constructor
  · rintro ⟨_, _, ⟨ho, rfl, rfl⟩, h⟩
    exact ⟨ho, h⟩
  · rintro ⟨ho, h⟩
    exact ⟨_, w, ⟨ho, rfl, rfl⟩, h⟩

theorem stops_checkArguments_bind_iff {args : List Argument} {k : Unit → Statement β}
    (he : e.IsOfLocks) :
    Stops (checkArguments args >>= k) w (.error e) ↔
      w.isOpen = true ∧ Storable args ∧ Stops (k ()) w (.error e) := by
  rw [stops_bind_iff_of_avoids he (avoids_checkArguments args)]
  simp only [checkArguments_ok_iff]
  constructor
  · rintro ⟨_, _, ⟨ho, hs, rfl⟩, h⟩
    exact ⟨ho, hs, h⟩
  · rintro ⟨ho, hs, h⟩
    exact ⟨(), w, ⟨ho, hs, rfl⟩, h⟩

theorem setLockTimeout_stops_iff {millis : Int} (he : e.IsOfLocks) :
    Stops (setLockTimeout millis) w (.error e) ↔
      w.isOpen = true ∧ greatestLockTimeout < millis ∧ e = .invalidSetting := by
  refine (stops_ensureOpen_bind_iff he).trans (and_congr_right fun _ => ?_)
  by_cases h : millis ≤ greatestLockTimeout
  · simp only [if_pos h, stops_iff_of_ok (pure_run () w), Int.not_lt.2 h, false_and]
  · simp only [if_neg h, stops_iff_of_error (fail_run _ w), Int.not_le.1 h, true_and,
      Stop.error.injEq]

/-- Waiting for rows fails exactly if one of them is held. -/
theorem await_stops_iff {ids : List Int} {held : World → List Int} {s : Stop StorageError} :
    Stops (do
      let w ← world
      if ids.any (held w).contains then fail .lockNotAvailable else return ()) w s ↔
      s = .error .lockNotAvailable ∧ ∃ id ∈ ids, id ∈ held w := by
  rw [stops_bind_of_ok (world_run w)]
  by_cases h : ids.any (held w).contains = true
  · rw [if_pos h, stops_iff_of_error (fail_run _ _)]
    simpa using fun _ => h
  · rw [if_neg h, stops_iff_of_ok (pure_run _ _)]
    simpa using fun _ => h

/-- A statement that waits for a shift and then has nothing more to do with locks. -/
theorem stops_awaitShifts_bind_iff {ids : List Int} {k : Unit → Statement β} (he : e.IsOfLocks)
    (hk : ∀ u, Avoids IsOfLocks (k u)) :
    Stops (awaitShifts ids >>= k) w (.error e) ↔
      e = .lockNotAvailable ∧ ∃ id ∈ ids, id ∈ w.heldShifts := by
  rw [stops_bind_iff_of_then_avoids he hk, awaitShifts, await_stops_iff, Stop.error.injEq]

theorem stops_awaitRequests_bind_iff {ids : List Int} {k : Unit → Statement β} (he : e.IsOfLocks)
    (hk : ∀ u, Avoids IsOfLocks (k u)) :
    Stops (awaitRequests ids >>= k) w (.error e) ↔
      e = .lockNotAvailable ∧ ∃ id ∈ ids, id ∈ w.heldRequests := by
  rw [stops_bind_iff_of_then_avoids he hk, awaitRequests, await_stops_iff, Stop.error.injEq]

end Statement

namespace Shifts

variable {id : Int}

theorem lock_stops_iff (he : e.IsOfLocks) :
    Stops (lock id) w (.error e) ↔
      w.isOpen = true ∧ e = .lockNotAvailable ∧ w.HoldsShift id := by
  rw [lock, stops_query_bind_iff he,
    stops_awaitShifts_bind_iff he fun _ => avoids_readableRow? _ _]
  simp [World.HoldsShift]

theorem lockWithCapacity_stops_iff (he : e.IsOfLocks) :
    Stops (lockWithCapacity id) w (.error e) ↔
      w.isOpen = true ∧ e = .lockNotAvailable ∧
        ∃ l ∈ lockedOf w.tables id, l.id ∈ w.heldShifts := by
  refine (stops_ensureOpen_bind_iff he).trans (and_congr_right fun _ => ?_)
  rw [stops_bind_of_ok (world_run w)]
  refine (stops_awaitShifts_bind_iff he fun _ => .pure _).trans (and_congr_right fun _ => ?_)
  constructor
  · rintro ⟨_, hid, hheld⟩
    obtain ⟨l, hl, rfl⟩ := List.mem_map.1 hid
    exact ⟨l, Option.mem_toList.1 hl, hheld⟩
  · rintro ⟨l, hl, hheld⟩
    exact ⟨l.id, List.mem_map_of_mem (Option.mem_toList.2 hl), hheld⟩

theorem update_stops_iff {patch : ShiftPatch} (he : e.IsOfLocks) :
    Stops (update id patch) w (.error e) ↔
      w.isOpen = true ∧ Storable (optionalTime patch.departureTime) ∧
        e = .lockNotAvailable ∧ w.HoldsShift id := by
  refine (stops_checkArguments_bind_iff he).trans ?_
  refine and_congr_right fun _ => and_congr_right fun _ => ?_
  rw [stops_bind_of_ok (world_run w)]
  -- once the row is had, the update has nothing more to do with locks
  refine (stops_awaitShifts_bind_iff he fun _ => ?_).trans (by simp [World.HoldsShift])
  cases w.tables.shift? id with
  | none => exact .pure _
  | some s => exact .ite (.fail (by decide)) (.bind (.change _) fun _ => avoids_find? _)

end Shifts

namespace Requests

variable {id : Int}

theorem not_holdsSome_iff {chosen : Request → Bool} : ¬ w.HoldsSome chosen ↔ AreFree w chosen := by
  simp [World.HoldsSome, AreFree]

/-- The requests with an id are held if the one that is found is. -/
theorem holdsSome_id_iff : w.HoldsSome (·.id == id) ↔ w.HoldsRequest id := by
  constructor
  · rintro ⟨r, hr, hid, hheld⟩
    exact holdsRequest_of_mem hr (beq_iff_eq.1 hid) hheld
  · rintro ⟨r, hr, hheld⟩
    obtain ⟨hmem, hid⟩ := Tables.mem_of_request? hr
    exact ⟨r, hmem, beq_iff_eq.2 hid, hheld⟩

theorem lockFound_stops_iff {found : Option Request} (he : e.IsOfLocks) :
    Stops (lockFound found) w (.error e) ↔
      e = .lockNotAvailable ∧ ∃ r ∈ found, r.id ∈ w.heldRequests := by
  rw [lockFound, stops_awaitRequests_bind_iff he fun _ => avoids_readableRow? _ _]
  simp

theorem lock_stops_iff (he : e.IsOfLocks) :
    Stops (lock id) w (.error e) ↔
      w.isOpen = true ∧ e = .lockNotAvailable ∧ w.HoldsRequest id := by
  rw [lock, stops_query_bind_iff he, lockFound_stops_iff he]
  rfl

theorem lockOwned_stops_iff {user : Int} (he : e.IsOfLocks) :
    Stops (lockOwned id user) w (.error e) ↔
      w.isOpen = true ∧ e = .lockNotAvailable ∧
        ∃ r ∈ (w.tables.request? id).filter (·.userId == user), r.id ∈ w.heldRequests := by
  rw [lockOwned, stops_query_bind_iff he, lockFound_stops_iff he]

theorem updateRows_stops_iff {chosen : Tables → Request → Bool} {edit : Request → Request}
    (he : e.IsOfLocks) :
    Stops (updateRows chosen edit) w (.error e) ↔
      e = .lockNotAvailable ∧ w.HoldsSome (chosen w.tables) := by
  rw [updateRows, stops_bind_of_ok (world_run w)]
  refine (stops_awaitRequests_bind_iff he fun _ => .bind (.change _) fun _ => .pure _).trans ?_
  simp [World.HoldsSome, and_assoc]

theorem setStatus_stops_iff {status : RequestStatus} (he : e.IsOfLocks) :
    Stops (setStatus id status) w (.error e) ↔
      w.isOpen = true ∧ e = .lockNotAvailable ∧ w.HoldsRequest id := by
  rw [setStatus, stops_ensureOpen_bind_iff he, stops_bind_iff_of_then_avoids he fun _ => .pure _,
    updateRows_stops_iff he, holdsSome_id_iff]

theorem publishOn_stops_iff {shift : Int} (he : e.IsOfLocks) :
    Stops (publishOn shift) w (.error e) ↔
      w.isOpen = true ∧ e = .lockNotAvailable ∧
        ∃ r ∈ w.tables.requestsOn shift, r.id ∈ w.heldRequests := by
  rw [publishOn, stops_ensureOpen_bind_iff he, updateRows_stops_iff he]
  simp [World.HoldsSome, Tables.requestsOn, and_assoc]

theorem saveDetails_stops_iff {details : Request} (he : e.IsOfLocks) :
    Stops (saveDetails details) w (.error e) ↔
      w.isOpen = true ∧ Storable (detailArguments details) ∧
        bagsAllowed details.checkedBags details.carryOnBags = true ∧
        e = .lockNotAvailable ∧ w.HoldsRequest details.id := by
  refine (stops_checkArguments_bind_iff he).trans ?_
  refine and_congr_right fun _ => and_congr_right fun _ => ?_
  cases hbags : bagsAllowed details.checkedBags details.carryOnBags with
  | false =>
    have hrule : e ≠ .brokenRule := by
      rintro rfl
      exact absurd he (by decide)
    simpa [stops_iff, eq_comm] using hrule
  | true =>
    simp only [Bool.not_true, Bool.false_eq_true, if_false, true_and]
    rw [← holdsSome_id_iff]
    -- reading the row back has nothing to do with locks
    refine (stops_bind_iff_of_then_avoids he fun _ => ?_).trans (updateRows_stops_iff he)
    refine .bind (avoids_find? _) fun found => ?_
    cases found with
    | none => exact .fail (by decide)
    | some r => exact .pure r

theorem applyRefresh_stops_iff {f : Flight.Refresh} (he : e.IsOfLocks) :
    Stops (applyRefresh f) w (.error e) ↔
      w.isOpen = true ∧ Storable (refreshArguments f) ∧ e = .lockNotAvailable ∧
        w.HoldsSome f.reaches := by
  refine (stops_checkArguments_bind_iff he).trans ?_
  exact and_congr_right fun _ => and_congr_right fun _ => updateRows_stops_iff he

end Requests

end Locks

end ShuttleDesk
