/-
  ShuttleDesk/Proofs/Store/Stops.lean
  ===================================
  Why a procedure stops, and why a statement that writes one row does when the store is
  open and nothing is held: an argument cannot be stored, or the row that was written
  cannot be read back.  The rules for counts and references are no reason if whoever runs
  the statement has seen to them.
-/
import ShuttleDesk.Proofs.Store.Contention

namespace ShuttleDesk

namespace Procedure

variable {ε ε' α β : Type} {x : Procedure ε α} {w v : World} {s : Stop ε}

/-- The procedure stops for this reason. -/
def Stops (x : Procedure ε α) (w : World) (s : Stop ε) : Prop := ∃ w', x w = (.error s, w')

theorem stops_iff : Stops x w s ↔ (x w).1 = .error s := by
  constructor
  · rintro ⟨w', h⟩
    rw [h]
  · intro h
    exact ⟨_, Prod.ext h rfl⟩

theorem stops_iff_of_run {o : Except (Stop ε) α} (h : x w = (o, v)) : Stops x w s ↔ o = .error s := by
  rw [stops_iff, h]

theorem stops_iff_of_ok {a : α} (h : x w = (.ok a, v)) : Stops x w s ↔ False := by
  simp [stops_iff_of_run h]

theorem stops_iff_of_error {t : Stop ε} (h : x w = (.error t, v)) : Stops x w s ↔ s = t := by
  simp [stops_iff_of_run h, eq_comm]

theorem stops_bind_iff {k : α → Procedure ε β} :
    Stops (x >>= k) w s ↔ Stops x w s ∨ ∃ a v, x w = (.ok a, v) ∧ Stops (k a) v s := by
  unfold Stops
  simp only [bind_error_iff, exists_or]
  refine or_congr_right ⟨?_, ?_⟩
  · rintro ⟨w', a, v, hx, hk⟩
    exact ⟨a, v, hx, w', hk⟩
  · rintro ⟨a, v, hx, w', hk⟩
    exact ⟨w', a, v, hx, hk⟩

/-- After a part that answers, only what comes next can stop. -/
theorem stops_bind_of_ok {k : α → Procedure ε β} {a : α} (h : x w = (.ok a, v)) :
    Stops (x >>= k) w s ↔ Stops (k a) v s := by
  rw [stops_iff, bind_run, h, stops_iff]

theorem stops_mapError_iff {f : ε → ε'} {s : Stop ε'} :
    Stops (x.mapError f) w s ↔
      (∃ e, Stops x w (.error e) ∧ s = .error (f e)) ∨ (Stops x w .timeOverflow ∧ s = .timeOverflow) := by
  unfold Stops
  simp only [mapError_error_iff, exists_or]
  refine or_congr ⟨?_, ?_⟩ ⟨?_, ?_⟩
  · rintro ⟨w', e, hx, hs⟩
    exact ⟨e, ⟨w', hx⟩, hs⟩
  · rintro ⟨e, ⟨w', hx⟩, hs⟩
    exact ⟨w', e, hx, hs⟩
  · rintro ⟨w', hx, hs⟩
    exact ⟨⟨w', hx⟩, hs⟩
  · rintro ⟨⟨w', hx⟩, hs⟩
    exact ⟨w', hx, hs⟩

theorem stops_transaction_iff : Stops (transaction x) w s ↔ Stops x w s := by
  rw [stops_iff, stops_iff]
  unfold transaction
  rcases x w with ⟨_ | _, _⟩ <;> rfl

end Procedure

open Procedure

namespace Statement

variable {α : Type} {w : World} {s : Stop StorageError}

/-- An argument is wrong, and of the first that is, this is said. -/
def IsRefused (args : List Argument) (e : StorageError) : Prop :=
  args.findSome? Argument.flaw? = some e

theorem storable_iff {args : List Argument} :
    Storable args ↔ args.findSome? Argument.flaw? = none := by
  simp [Storable, List.findSome?_eq_none_iff]

theorem IsRefused.not_storable {args : List Argument} {e : StorageError} (h : IsRefused args e) :
    ¬ Storable args := by
  rw [storable_iff, h]
  exact Option.some_ne_none e

/-- A text with a character that cannot be stored, or a time before those that can. -/
theorem IsRefused.eq_or {args : List Argument} {e : StorageError} (h : IsRefused args e) :
    e = .invalidText ∨ e = .timeTooEarly := by
  obtain ⟨a, -, ha⟩ := List.exists_of_findSome?_eq_some h
  unfold Argument.flaw? at ha
  split at ha <;> split at ha <;> cases ha
  · exact .inl rfl
  · exact .inr rfl
  · exact .inr rfl

/-- What begins by checking its arguments stops because of them, or for what is wrong when they
can be stored. -/
theorem stops_checked_iff {x : Statement α} {args : List Argument} {k : Unit → Statement α}
    {p : Prop} (hx : x = checkArguments args >>= k) (ho : w.isOpen = true)
    (hrest : Storable args → (Stops x w s ↔ p)) :
    Stops x w s ↔ (∃ e, IsRefused args e ∧ s = .error e) ∨ (Storable args ∧ p) := by
  cases hflaw : args.findSome? Argument.flaw? with
  | none =>
    have hstorable := storable_iff.2 hflaw
    rw [hrest hstorable]
    constructor
    · exact fun hp => .inr ⟨hstorable, hp⟩
    · rintro (⟨e, he, -⟩ | ⟨-, hp⟩)
      · exact absurd hstorable he.not_storable
      · exact hp
  | some e =>
    have hrefused : IsRefused args e := hflaw
    have hrun : x w = (.error (.error e), w) := by
      simp only [hx, checkArguments, bind_run, ensureOpen, world_run, if_pos ho, pure_run, hflaw,
        fail_run]
    rw [stops_iff_of_error hrun]
    constructor
    · rintro rfl
      exact .inl ⟨e, hrefused, rfl⟩
    · rintro (⟨e', he', rfl⟩ | ⟨hstorable, -⟩)
      · cases hrefused.symm.trans he'
        rfl
      · exact absurd hstorable hrefused.not_storable

/-- What answers once its arguments can be stored stops only because of them. -/
theorem stops_checked_iff_of_ok {x : Statement α} {args : List Argument} {k : Unit → Statement α}
    (hx : x = checkArguments args >>= k) (ho : w.isOpen = true)
    (hrun : Storable args → ∃ a v, x w = (.ok a, v)) :
    Stops x w s ↔ ∃ e, IsRefused args e ∧ s = .error e := by
  refine (stops_checked_iff (p := False) hx ho fun hstorable => ?_).trans (by simp)
  obtain ⟨a, v, hok⟩ := hrun hstorable
  exact stops_iff_of_ok hok

end Statement

open Statement

variable {w : World} {s : Stop StorageError}

namespace Requests

theorem stops_lockOwned_iff (h : w.IsCalm) {id user : Int} :
    Stops (lockOwned id user) w s ↔
      (∃ r ∈ (w.tables.request? id).filter (·.userId == user), r.isReadable = false) ∧
        s = .timeOverflow := by
  have hrun : lockOwned id user w =
      (if ((w.tables.request? id).filter (·.userId == user)).all Request.isReadable
        then .ok ((w.tables.request? id).filter (·.userId == user)) else .error .timeOverflow, w) := by
    simp only [lockOwned, lockFound, bind_run, query_run h.isOpen, h.awaitRequests_run,
      readableRow?_run]
  rw [stops_iff_of_run hrun]
  cases hfound : (w.tables.request? id).filter (·.userId == user) with
  | none => simp
  | some r => cases hr : r.isReadable <;> simp [hr, @eq_comm _ s]

theorem stops_insert_iff (ho : w.isOpen = true) {user : Int} {n : NewRequest}
    (huser : (w.tables.user? user).isSome = true)
    (hbags : bagsAllowed n.checkedBags n.carryOnBags = true)
    (hreadable : n.arrivalTime.all Calendar.WallClock.isReadable = true ∧
      n.calcPickupTime.all Calendar.WallClock.isReadable = true) :
    Stops (insert user n) w s ↔ ∃ e, IsRefused (arguments n) e ∧ s = .error e := by
  refine stops_checked_iff_of_ok rfl ho fun hstorable => ?_
  have hrow : (ofNew (w.issued.requests + 1) user n w.now).isReadable = true := by
    simp [Request.isReadable, ofNew, hreadable]
  exact ⟨_, _, insert_ok_iff.2 ⟨ho, hstorable, hbags, huser, rfl, hrow, rfl⟩⟩

/-- The row that is edited is there, so that it is also found after the edit. -/
theorem stops_saveDetails_iff (h : w.IsCalm) {details : Request}
    (hrow : (w.tables.request? details.id).isSome = true)
    (hbags : bagsAllowed details.checkedBags details.carryOnBags = true) :
    Stops (saveDetails details) w s ↔
      (∃ e, IsRefused (detailArguments details) e ∧ s = .error e) ∨
      (Storable (detailArguments details) ∧ details.isReadable = false ∧ s = .timeOverflow) := by
  refine stops_checked_iff rfl h.isOpen fun hstorable => ?_
  have hid : ∀ r, (withDetails details r).id = r.id := fun _ => rfl
  obtain ⟨row, hrow⟩ := Option.isSome_iff_exists.1 hrow
  have hsaved : (w.tables.editDetails w.now details).request? details.id
      = some { withDetails details row with updatedAt := w.now } := by
    unfold Tables.editDetails
    rw [Tables.request?_editRequests hid, hrow]
    simp [(Tables.mem_of_request? hrow).2]
  have hreadback : ({ withDetails details row with updatedAt := w.now } : Request).isReadable
      = details.isReadable := rfl
  cases hreadable : details.isReadable with
  | true =>
    have hok := saveDetails_ok_iff.2 ⟨h.isOpen, hstorable, hbags, h.areFree _, hsaved,
      hreadback.trans hreadable, rfl⟩
    simpa using stops_iff_of_ok hok
  | false =>
    have hargs : checkArguments (detailArguments details) w = (.ok (), w) :=
      checkArguments_ok_iff.2 ⟨h.isOpen, hstorable, rfl⟩
    have hupdate : updateRows (fun _ r => r.id == details.id) (withDetails details) w = (.ok _, _) :=
      updateRows_ok_iff.2 ⟨h.areFree _, rfl, rfl⟩
    have hfind : find? details.id (w.withTables (w.tables.editDetails w.now details))
        = (.error .timeOverflow, w.withTables (w.tables.editDetails w.now details)) := by
      have ho : (w.withTables (w.tables.editDetails w.now details)).isOpen = true := h.isOpen
      simp only [find?, bind_run, query_run ho, readableRow?_run, World.withTables_tables, hsaved,
        Option.all_some, hreadback, hreadable, Bool.false_eq_true, if_false]
    have hstop : saveDetails details w
        = (.error .timeOverflow, w.withTables (w.tables.editDetails w.now details)) := by
      refine bind_error_iff.2 (.inr ⟨_, _, hargs, ?_⟩)
      simp only [hbags, Bool.not_true, Bool.false_eq_true, if_false]
      exact bind_error_iff.2 (.inr ⟨_, _, hupdate, bind_error_iff.2 (.inl hfind)⟩)
    simpa using stops_iff_of_error hstop

end Requests

namespace Shifts

theorem stops_insert_iff (ho : w.isOpen = true) {driver : Int} {departure : Calendar.WallClock}
    (hdriver : (w.tables.driver? driver).isSome = true) :
    Stops (insert driver departure) w s ↔
      (∃ e, IsRefused [.time departure] e ∧ s = .error e) ∨
      (Storable [.time departure] ∧ departure.isReadable = false ∧ s = .timeOverflow) := by
  refine stops_checked_iff rfl ho fun hstorable => ?_
  cases hreadable : departure.isReadable with
  | false =>
    have hstop := insert_of_unreadable ⟨ho, hstorable, hdriver, hreadable⟩
    simpa using stops_iff_of_error hstop
  | true =>
    have hok := insert_ok_iff.2 ⟨ho, hstorable, hdriver, rfl, hreadable, rfl⟩
    simpa using stops_iff_of_ok hok

theorem stops_update_iff (h : w.IsCalm) {id : Int} {patch : ShiftPatch}
    (hdriver : DriverExists w.tables patch) :
    Stops (update id patch) w s ↔
      (∃ e, IsRefused (optionalTime patch.departureTime) e ∧ s = .error e) ∨
      (Storable (optionalTime patch.departureTime) ∧
        (∃ row ∈ w.tables.shift? id, (patch.apply row).isReadable = false) ∧ s = .timeOverflow) := by
  refine stops_checked_iff rfl h.isOpen fun hstorable => ?_
  have hid : ∀ s, (patch.apply s).id = s.id := fun _ => rfl
  have hfree : ∀ s ∈ w.tables.shift? id, s.id ∉ w.heldShifts := by simp [h.heldShifts]
  cases hs : w.tables.shift? id with
  | none =>
    have hok := update_ok_iff.2 ⟨h.isOpen, hstorable, hfree, .inl ⟨hs, rfl, rfl⟩⟩
    simpa using stops_iff_of_ok hok
  | some row =>
    have hsaved : (w.tables.editShift id patch.apply).shift? id = some (patch.apply row) :=
      Tables.shift?_editShift_self hid hs
    cases hreadable : (patch.apply row).isReadable with
    | true =>
      have hall : ((w.tables.editShift id patch.apply).shift? id).all Shift.isReadable = true := by
        rw [hsaved]
        exact hreadable
      have hok := update_ok_iff.2 ⟨h.isOpen, hstorable, hfree,
        .inr ⟨Option.isSome_of_eq_some hs, hdriver, hall, hsaved, rfl⟩⟩
      simpa [hreadable] using stops_iff_of_ok hok
    | false =>
      have hstop := update_of_unreadable
        ⟨h.isOpen, hstorable, hfree, hdriver, _, hsaved, hreadable⟩
      simpa [hreadable] using stops_iff_of_error hstop

end Shifts

namespace Drivers

theorem stops_insert_iff (ho : w.isOpen = true) {input : DriverInput}
    (hlimits : isAllowed input.capacity = true) :
    Stops (insert input) w s ↔
      ∃ e, IsRefused [.text input.name, .text input.carModel] e ∧ s = .error e := by
  refine stops_checked_iff_of_ok rfl ho fun hstorable => ?_
  exact ⟨_, _, insert_ok_iff.2 ⟨ho, hstorable, hlimits, rfl, rfl⟩⟩

theorem stops_update_iff (ho : w.isOpen = true) {id : Int} {input : DriverInput}
    (hlimits : isAllowed input.capacity = true) :
    Stops (update id input) w s ↔
      ∃ e, IsRefused [.text input.name, .text input.carModel] e ∧ s = .error e := by
  refine stops_checked_iff_of_ok rfl ho fun hstorable => ?_
  cases hd : w.tables.driver? id with
  | none => exact ⟨_, _, update_ok_iff.2 ⟨ho, hstorable, .inl ⟨hd, rfl, rfl⟩⟩⟩
  | some d =>
    exact ⟨_, _, update_ok_iff.2
      ⟨ho, hstorable, .inr ⟨Option.isSome_of_eq_some hd, hlimits, rfl, rfl⟩⟩⟩

end Drivers

end ShuttleDesk
