/-
  ShuttleDesk/Proofs/Desk/Intake.lean
  ===================================
  Whatever riders and operators send should be answered: by a success, or by telling
  them what is wrong with it.  When the store is open and nothing is held, it is so
  unless an input reaches further than the desk can compute or store.

  The checks of the desk let through what later steps cannot take: an arrival whose
  pickup lies past the calendar, a departure in its last second, texts with a character
  and times in years that the store does not know.  `Overreach` lists them, call by call,
  with the guards that come before; there are no others.
-/
import ShuttleDesk.Proofs.Desk.StoredRules
import ShuttleDesk.Proofs.Store.Stops

namespace ShuttleDesk

open Procedure Statement

/-- The stop is no mistake of the caller. -/
def Stop.IsFault : Stop DeskError → Prop
  | .error e => e.isCallerError = false
  | .timeOverflow => True

namespace Operation

variable {α β : Type} {x : Operation α} {w v : World} {s : Stop DeskError}

/-- The operation stops for a reason that is no mistake of the caller. -/
def Faults (x : Operation α) (w : World) (s : Stop DeskError) : Prop := Stops x w s ∧ s.IsFault

theorem faults_bind_iff {k : α → Operation β} :
    Faults (x >>= k) w s ↔ Faults x w s ∨ ∃ a v, x w = (.ok a, v) ∧ Faults (k a) v s := by
  unfold Faults
  rw [stops_bind_iff, or_and_right]
  simp only [and_assoc, ← exists_and_right]

/-- After a part that answers, only what comes next can be at fault. -/
theorem faults_bind_of_ok {k : α → Operation β} {a : α} (h : x w = (.ok a, v)) :
    Faults (x >>= k) w s ↔ Faults (k a) v s := by
  unfold Faults
  rw [stops_bind_of_ok h]

theorem faults_map_iff {f : α → β} : Faults (f <$> x) w s ↔ Faults x w s := by
  unfold Faults Stops
  simp only [map_error_iff]

theorem faults_ite_iff {p : Prop} [Decidable p] {y : Operation α} :
    Faults (if p then x else y) w s ↔ (p ∧ Faults x w s) ∨ (¬ p ∧ Faults y w s) := by
  by_cases h : p <;> simp [h]

theorem faults_fail_iff {e : DeskError} (he : e.isCallerError = true) :
    Faults (fail e : Operation α) w s ↔ False := by
  unfold Faults
  rw [stops_iff_of_error (fail_run e w), iff_false, not_and]
  rintro rfl hfault
  rw [Stop.IsFault, he] at hfault
  cases hfault

/-- That something is not found is the caller's mistake. -/
theorem faults_bind_orFail_iff {x : Operation (Option α)} {e : DeskError}
    (he : e.isCallerError = true) : Faults (x >>= orFail e) w s ↔ Faults x w s := by
  rw [faults_bind_iff, or_iff_left]
  rintro ⟨a?, v, -, hfault⟩
  cases a? with
  | none => exact (faults_fail_iff he).1 hfault
  | some a => simp [Faults, stops_iff] at hfault

theorem faults_orFail_bind_iff {a? : Option α} {e : DeskError} {k : α → Operation β}
    (he : e.isCallerError = true) :
    Faults (orFail e a? >>= k) w s ↔ ∃ a, a? = some a ∧ Faults (k a) w s := by
  cases a? with
  | none => simp [faults_bind_iff, faults_fail_iff he]
  | some a => simp

theorem faults_ofExcept_bind_iff {r : Except DeskError α} {k : α → Operation β}
    (he : ∀ e, r = .error e → e.isCallerError = true) :
    Faults (ofExcept r >>= k) w s ↔ ∃ a, r = .ok a ∧ Faults (k a) w s := by
  cases r with
  | error e => simp [faults_bind_iff, faults_fail_iff (he e rfl)]
  | ok a => simp

theorem isCallerError_ofRefusal (r : Refusal) : (DeskError.ofRefusal r).isCallerError = true := by
  cases r <;> rfl

theorem faults_accepted_bind_iff {r : Except Refusal α} {k : α → Operation β} :
    Faults (accepted r >>= k) w s ↔ ∃ a, r = .ok a ∧ Faults (k a) w s := by
  unfold accepted
  rw [faults_ofExcept_bind_iff]
  · cases r <;> simp [Except.mapError]
  · intro e he
    cases r with
    | error refusal =>
      cases he
      exact isCallerError_ofRefusal refusal
    | ok a => cases he

theorem faults_inCalendar_bind_iff {a? : Option α} {k : α → Operation β} :
    Faults (inCalendar a? >>= k) w s ↔
      (a? = none ∧ s = .timeOverflow) ∨ ∃ a, a? = some a ∧ Faults (k a) w s := by
  cases a? with
  | none =>
    have hrun : (inCalendar none >>= k) w = (.error .timeOverflow, w) := rfl
    unfold Faults
    rw [stops_iff_of_error hrun]
    simp only [true_and, reduceCtorEq, false_and, exists_false, or_false, and_iff_left_iff_imp]
    rintro rfl
    trivial
  | some a => simp [inCalendar]

/-- Errors of the store are no mistakes of the caller. -/
theorem faults_lift_iff {x : Statement α} :
    Faults (liftM x : Operation α) w s ↔
      (∃ e, Stops x w (.error e) ∧ s = .error (.ofStorage e)) ∨
      (Stops x w .timeOverflow ∧ s = .timeOverflow) := by
  unfold Faults
  rw [lift_eq_mapError, stops_mapError_iff, and_iff_left_iff_imp]
  rintro (⟨e, -, rfl⟩ | ⟨-, rfl⟩)
  · unfold DeskError.ofStorage
    split <;> rfl
  · trivial

theorem ofStorage_of_isRefused {args : List Argument} {e : StorageError} (h : IsRefused args e) :
    DeskError.ofStorage e = .database e := by
  rcases h.eq_or with rfl | rfl <;> rfl

/-- A statement that stops because of its arguments, or because a row cannot be read back. -/
theorem faults_lift_of_stops {x : Statement α} {args : List Argument} {p : Prop}
    (h : ∀ t, Stops x w t ↔
      (∃ e, IsRefused args e ∧ t = .error e) ∨ (p ∧ t = .timeOverflow)) :
    Faults (liftM x : Operation α) w s ↔
      (∃ e, IsRefused args e ∧ s = .error (.database e)) ∨ (p ∧ s = .timeOverflow) := by
  rw [faults_lift_iff, h]
  simp only [h, Stop.error.injEq, reduceCtorEq, and_false, or_false, exists_false, false_or,
    and_true, exists_eq_right']
  refine or_congr_left (exists_congr fun e => and_congr_right fun hrefused => ?_)
  rw [ofStorage_of_isRefused hrefused]

/-- A statement that stops because of its arguments only. -/
theorem faults_lift_of_refused {x : Statement α} {args : List Argument}
    (h : ∀ t, Stops x w t ↔ ∃ e, IsRefused args e ∧ t = .error e) :
    Faults (liftM x : Operation α) w s ↔ ∃ e, IsRefused args e ∧ s = .error (.database e) := by
  have hstops : ∀ t, Stops x w t ↔
      (∃ e, IsRefused args e ∧ t = .error e) ∨ (False ∧ t = .timeOverflow) := by
    simpa using h
  simpa using faults_lift_of_stops hstops

theorem faults_locking_iff {wait : Int} (ho : w.isOpen = true) (hwait : wait ≤ greatestLockTimeout) :
    Faults (locking wait x) w s ↔ Faults x w s := by
  have hset : (liftM (setLockTimeout wait) : Operation Unit) w = (.ok (), w) :=
    lift_ok_iff.2 (setLockTimeout_ok_iff.2 ⟨ho, hwait, rfl⟩)
  unfold Faults locking
  rw [stops_transaction_iff, stops_bind_of_ok hset]

end Operation

namespace Desk

open Operation Calendar

/-! ### What reaches too far -/

theorem newRequest?_eq_none_iff {input : RequestInput} {date : Date} {arrival : DateTime} :
    newRequest? input date arrival = none ↔
      arrival.LeavesCalendarAfter (Pickup.bufferFor input.terminal) := by
  rw [← DateTime.addMinutes?_eq_none_iff]
  unfold newRequest? Pickup.time?
  cases hpickup : arrival.addMinutes? (Pickup.bufferFor input.terminal) <;> simp [hpickup]

/-- Only a pickup that is computed anew can leave the calendar. -/
theorem RequestChange.after?_eq_none_iff {change : RequestChange} {row : Request} :
    change.after? row = none ↔ change.changesTiming row = true ∧
      ∃ arrival ∈ change.arrivalAfter row, arrival.LeavesCalendarAfter (change.buffer row) := by
  simp only [← DateTime.addMinutes?_eq_none_iff, after?, pickupAfter, Pickup.time?]
  by_cases hretimed : change.changesTiming row = true
  · cases change.arrivalAfter row with
    | none => simp [hretimed]
    | some arrival =>
      cases hpickup : arrival.addMinutes? (change.buffer row) <;> simp [hretimed, hpickup]
  · simp [hretimed]

/-- A new request passes every check that is made before its pickup is computed. -/
structure IsTaken (w : World) (rider : Int) (input : RequestInput) (date : Date)
    (arrival : DateTime) : Prop where
  alone : w.tables.requestsOf rider = []
  valid : input.validate = .ok ()
  dateRead : readDate "arrival_date" input.arrivalDate = .ok date
  arrivalRead : readDateTime "expected_arrival_time" input.expectedArrivalTime = .ok arrival

/-- An edit passes every check that is made before the pickup is computed anew. -/
structure IsEditable (w : World) (rider request : Int) (edit : RequestEdit) (row : Request)
    (change : RequestChange) : Prop where
  owned : (w.tables.request? request).filter (·.userId == rider) = some row
  readable : row.isReadable = true
  pending : row.status = .pending
  valid : edit.validate = .ok ()
  changeRead : RequestChange.ofEdit edit = .ok change

/-- The call passes the checks of the desk, and then it stops: a time leaves the calendar, or the
store does not take a value. -/
inductive Overreach (w : World) : Call → Stop DeskError → Prop
  | newPickup {rider input date arrival} (taken : IsTaken w rider input date arrival)
      (past : arrival.LeavesCalendarAfter (Pickup.bufferFor input.terminal)) :
      Overreach w (.createRequest rider input) .timeOverflow
  | newValues {rider input date arrival values e} (taken : IsTaken w rider input date arrival)
      (timed : newRequest? input date arrival = some values)
      (refused : IsRefused (Requests.arguments values) e) :
      Overreach w (.createRequest rider input) (.error (.database e))
  | lockedRow {rider request edit row}
      (owned : (w.tables.request? request).filter (·.userId == rider) = some row)
      (unreadable : row.isReadable = false) :
      Overreach w (.editRequest rider request edit) .timeOverflow
  | editedPickup {rider request edit row change arrival}
      (editable : IsEditable w rider request edit row change)
      (retimed : change.changesTiming row = true) (arrives : arrival ∈ change.arrivalAfter row)
      (past : arrival.LeavesCalendarAfter (change.buffer row)) :
      Overreach w (.editRequest rider request edit) .timeOverflow
  | editedValues {rider request edit row change after e}
      (editable : IsEditable w rider request edit row change)
      (timed : change.after? row = some after)
      (refused : IsRefused (Requests.detailArguments after) e) :
      Overreach w (.editRequest rider request edit) (.error (.database e))
  | editedRow {rider request edit row change after}
      (editable : IsEditable w rider request edit row change)
      (timed : change.after? row = some after)
      (storable : Storable (Requests.detailArguments after)) (unreadable : after.isReadable = false) :
      Overreach w (.editRequest rider request edit) .timeOverflow
  | newDeparture {driver departure e} (known : (w.tables.driver? driver).isSome = true)
      (refused : IsRefused [.time (.ofDateTime departure)] e) :
      Overreach w (.createShift driver departure) (.error (.database e))
  | newShift {driver} (known : (w.tables.driver? driver).isSome = true) :
      Overreach w (.createShift driver DateTime.last) .timeOverflow
  | editedDeparture {shift change e} (named : change.patch.isEmpty = false)
      (known : Shifts.DriverExists w.tables change.patch)
      (refused : IsRefused (optionalTime change.patch.departureTime) e) :
      Overreach w (.updateShift shift change) (.error (.database e))
  | editedShift {shift change row} (named : change.patch.isEmpty = false)
      (known : Shifts.DriverExists w.tables change.patch)
      (found : w.tables.shift? shift = some row)
      (unreadable : (change.patch.apply row).isReadable = false) :
      Overreach w (.updateShift shift change) .timeOverflow
  | newDriver {input e} (valid : checkProfile input = .ok ())
      (refused : IsRefused [.text input.name, .text input.carModel] e) :
      Overreach w (.createDriver input) (.error (.database e))
  | editedDriver {driver input e} (valid : checkProfile input = .ok ())
      (refused : IsRefused [.text input.name, .text input.carModel] e) :
      Overreach w (.updateDriver driver input) (.error (.database e))

variable {w : World} {s : Stop DeskError}

/-! ### The checks see to the rules of the store -/

theorem isCallerError_of_check {lines : List String} {e : DeskError}
    (h : FieldRule.check lines = .error e) : e.isCallerError = true := by
  unfold FieldRule.check at h
  split at h <;> cases h
  rfl

theorem isCallerError_of_checkProfile {input : DriverInput} {e : DeskError}
    (h : checkProfile input = .error e) : e.isCallerError = true := by
  unfold checkProfile at h
  split at h
  · cases h
    rfl
  · split at h
    · cases h
      rfl
    · cases hlimits : input.capacity.validate with
      | ok u =>
        rw [hlimits] at h
        cases h
      | error refusal =>
        rw [hlimits] at h
        cases h
        exact isCallerError_ofRefusal refusal

theorem isAllowed_of_checkProfile {input : DriverInput} (h : checkProfile input = .ok ()) :
    Drivers.isAllowed input.capacity = true := by
  unfold checkProfile at h
  split at h
  · cases h
  split at h
  · cases h
  cases hlimits : input.capacity.validate with
  | error refusal =>
    rw [hlimits] at h
    cases h
  | ok u =>
    have hlimit : ∀ {refusal : Refusal} {value : Int} {u : Unit},
        (if value < 0 then Except.error refusal else Except.ok ()) = .ok u → 0 ≤ value := by
      intro refusal value u h
      split at h
      · cases h
      · omega
    unfold Capacity.validate at hlimits
    obtain ⟨_, hseats, hlimits⟩ := except_bind_ok_iff.1 hlimits
    obtain ⟨_, hchecked, hcarryOn⟩ := except_bind_ok_iff.1 hlimits
    simp only [Drivers.isAllowed, Bool.and_eq_true, decide_eq_true_eq]
    exact ⟨⟨hlimit hseats, hlimit hchecked⟩, hlimit hcarryOn⟩

theorem bagsAllowed_of_newRequest? {input : RequestInput} {date : Date} {arrival : DateTime}
    {values : NewRequest} (hvalid : input.validate = .ok ())
    (h : newRequest? input date arrival = some values) :
    Requests.bagsAllowed values.checkedBags values.carryOnBags = true := by
  have hobeys : (Requests.ofNew 0 0 values ⟨0⟩).Obeys fun _ => False := obeys_ofNew hvalid h
  exact Requests.bagsAllowed_iff.2 ⟨hobeys.checkedBags, hobeys.carryOnBags⟩

theorem bagsAllowed_of_after? {edit : RequestEdit} {change : RequestChange} {row after : Request}
    (hrow : Requests.bagsAllowed row.checkedBags row.carryOnBags = true)
    (hvalid : edit.validate = .ok ()) (hchange : RequestChange.ofEdit edit = .ok change)
    (hafter : change.after? row = some after) :
    Requests.bagsAllowed after.checkedBags after.carryOnBags = true := by
  obtain ⟨pickup, -, hafter⟩ := Option.bind_eq_some_iff.1 hafter
  cases hafter
  obtain ⟨_, -, hchange⟩ := except_bind_ok_iff.1 hchange
  obtain ⟨_, -, hchange⟩ := except_bind_ok_iff.1 hchange
  cases hchange
  obtain ⟨hcarryOn, hchecked, -, -⟩ := FieldRule.check_broken_ok_iff.1 hvalid
  rw [Requests.bagsAllowed, Bool.and_eq_true] at hrow ⊢
  have hrowChecked : FieldRule.isCount row.checkedBags = true := hrow.1
  have hrowCarryOn : FieldRule.isCount row.carryOnBags = true := hrow.2
  exact ⟨(FieldRule.getD_iff hrowChecked _).2 hchecked,
    (FieldRule.getD_iff hrowCarryOn _).2 hcarryOn⟩

/-! ### The calls -/

/-- Once the input has passed the checks, the rider is there and the bags are allowed. -/
theorem faults_insertRequest_iff (ho : w.isOpen = true) {rider : Int} {input : RequestInput}
    {date : Date} {arrival : DateTime} {values : NewRequest}
    (hrider : (w.tables.user? rider).isSome = true) (hvalid : input.validate = .ok ())
    (htimed : newRequest? input date arrival = some values) :
    Faults (liftM (Requests.insert rider values) : Operation Request) w s ↔
      ∃ e, IsRefused (Requests.arguments values) e ∧ s = .error (.database e) :=
  faults_lift_of_refused fun _ => Requests.stops_insert_iff ho hrider
    (bagsAllowed_of_newRequest? hvalid htimed) (readable_of_newRequest? htimed)

theorem faults_createRequest_iff (ho : w.isOpen = true) {rider : Int} {input : RequestInput}
    (hrider : (w.tables.user? rider).isSome = true) :
    Faults (createRequest rider input) w s ↔ Overreach w (.createRequest rider input) s := by
  have hcount : (liftM (Requests.countOf rider) : Operation Nat) w
      = (.ok (w.tables.requestsOf rider).length, w) :=
    lift_ok_iff.2 (query_run ho)
  have hvalidate : ∀ e, input.validate = .error e → e.isCallerError = true :=
    fun _ => isCallerError_of_check
  unfold createRequest
  rw [faults_bind_of_ok hcount, faults_ite_iff, faults_fail_iff rfl,
    faults_ofExcept_bind_iff hvalidate]
  simp only [and_false, false_or, faults_accepted_bind_iff, faults_inCalendar_bind_iff]
  constructor
  · rintro ⟨hnone, _, hvalid, date, hdate, arrival, harrival, hrest⟩
    have halone : w.tables.requestsOf rider = [] := List.eq_nil_of_length_eq_zero (by omega)
    have htaken : IsTaken w rider input date arrival := ⟨halone, hvalid, hdate, harrival⟩
    rcases hrest with ⟨hpast, rfl⟩ | ⟨values, htimed, hfault⟩
    · exact .newPickup htaken (newRequest?_eq_none_iff.1 hpast)
    · obtain ⟨e, hrefused, rfl⟩ := (faults_insertRequest_iff ho hrider hvalid htimed).1 hfault
      exact .newValues htaken htimed hrefused
  · intro h
    cases h with
    | newPickup taken past =>
      exact ⟨by simp [taken.alone], (), taken.valid, _, taken.dateRead, _, taken.arrivalRead,
        .inl ⟨newRequest?_eq_none_iff.2 past, rfl⟩⟩
    | newValues taken timed refused =>
      exact ⟨by simp [taken.alone], (), taken.valid, _, taken.dateRead, _, taken.arrivalRead,
        .inr ⟨_, timed, (faults_insertRequest_iff ho hrider taken.valid timed).2 ⟨_, refused, rfl⟩⟩⟩

theorem faults_lockOwned_iff (h : w.IsCalm) {rider request : Int} :
    Faults (liftM (Requests.lockOwned request rider) : Operation (Option Request)) w s ↔
      (∃ row ∈ (w.tables.request? request).filter (·.userId == rider), row.isReadable = false) ∧
        s = .timeOverflow := by
  simp [faults_lift_iff, Requests.stops_lockOwned_iff h]

/-- Once the edit has passed the checks, the row is there and its bags are allowed. -/
theorem faults_saveDetails_iff (h : w.IsCalm) (hl : w.tables.Lawful) {rider request : Int}
    {edit : RequestEdit} {row after : Request} {change : RequestChange}
    (heditable : IsEditable w rider request edit row change)
    (htimed : change.after? row = some after) :
    Faults (liftM (Requests.saveDetails after) : Operation Request) w s ↔
      (∃ e, IsRefused (Requests.detailArguments after) e ∧ s = .error (.database e)) ∨
      ((Storable (Requests.detailArguments after) ∧ after.isReadable = false) ∧
        s = .timeOverflow) := by
  obtain ⟨hrow, -⟩ := Option.filter_eq_some_iff.1 heditable.owned
  obtain ⟨hmem, hid⟩ := Tables.mem_of_request? hrow
  have hthere : (w.tables.request? after.id).isSome = true := by
    rw [RequestChange.after?_id htimed, hid, hrow]
    rfl
  have hbags : Requests.bagsAllowed after.checkedBags after.carryOnBags = true :=
    bagsAllowed_of_after? (hl.bags row hmem) heditable.valid heditable.changeRead htimed
  refine faults_lift_of_stops fun t => ?_
  rw [Requests.stops_saveDetails_iff h hthere hbags, and_assoc]

/-- The row of an edit that passes the checks can be locked. -/
theorem IsEditable.isFree (h : w.IsCalm) {rider request : Int} {edit : RequestEdit} {row : Request}
    {change : RequestChange} (heditable : IsEditable w rider request edit row change) :
    ∀ r ∈ (w.tables.request? request).filter (·.userId == rider), Requests.IsFree w r := by
  intro r hr
  cases heditable.owned.symm.trans hr
  exact ⟨by simp [h.heldRequests], heditable.readable⟩

theorem faults_editRequest_iff (h : w.IsCalm) (hl : w.tables.Lawful) {wait : Int}
    (hwait : wait ≤ greatestLockTimeout) {rider request : Int} {edit : RequestEdit} :
    Faults (editRequest wait rider request edit) w s ↔
      Overreach w (.editRequest rider request edit) s := by
  have hvalidate : ∀ e, edit.validate = .error e → e.isCallerError = true :=
    fun _ => isCallerError_of_check
  have hmissing : (DeskError.notFound request).isCallerError = true := rfl
  have hstate : ∀ reason, (DeskError.invalidState reason).isCallerError = true := fun _ => rfl
  unfold editRequest
  rw [faults_locking_iff h.isOpen hwait, faults_bind_iff, faults_lockOwned_iff h]
  simp only [faults_orFail_bind_iff hmissing, faults_ite_iff, faults_fail_iff (hstate _), and_false,
    false_or, not_isMutable_iff, not_not, faults_ofExcept_bind_iff hvalidate,
    faults_accepted_bind_iff, faults_inCalendar_bind_iff, lift_ok_iff, Requests.lockOwned_ok_iff]
  constructor
  · rintro (⟨⟨row, howned, hunreadable⟩, rfl⟩ | ⟨_, _, ⟨-, hfree, hfound, rfl⟩, row, rfl, hpending, _,
      hvalid, change, hchange, hrest⟩)
    · exact .lockedRow howned hunreadable
    · have heditable : IsEditable w rider request edit row change :=
        ⟨hfound, (hfree row hfound).2, hpending, hvalid, hchange⟩
      rcases hrest with ⟨hpast, rfl⟩ | ⟨after, htimed, hfault⟩
      · obtain ⟨hretimed, arrival, harrives, hleaves⟩ := RequestChange.after?_eq_none_iff.1 hpast
        exact .editedPickup heditable hretimed harrives hleaves
      · rcases (faults_saveDetails_iff h hl heditable htimed).1 hfault with
          ⟨e, hrefused, rfl⟩ | ⟨⟨hstorable, hunreadable⟩, rfl⟩
        · exact .editedValues heditable htimed hrefused
        · exact .editedRow heditable htimed hstorable hunreadable
  · intro hover
    cases hover with
    | lockedRow owned unreadable => exact .inl ⟨⟨_, owned, unreadable⟩, rfl⟩
    | editedPickup editable retimed arrives past =>
      have hnone := RequestChange.after?_eq_none_iff.2 ⟨retimed, _, arrives, past⟩
      exact .inr ⟨_, w, ⟨h.isOpen, editable.isFree h, editable.owned, rfl⟩, _, rfl, editable.pending,
        (), editable.valid, _, editable.changeRead, .inl ⟨hnone, rfl⟩⟩
    | editedValues editable timed refused =>
      exact .inr ⟨_, w, ⟨h.isOpen, editable.isFree h, editable.owned, rfl⟩, _, rfl, editable.pending,
        (), editable.valid, _, editable.changeRead,
        .inr ⟨_, timed, (faults_saveDetails_iff h hl editable timed).2 (.inl ⟨_, refused, rfl⟩)⟩⟩
    | editedRow editable timed storable unreadable =>
      exact .inr ⟨_, w, ⟨h.isOpen, editable.isFree h, editable.owned, rfl⟩, _, rfl, editable.pending,
        (), editable.valid, _, editable.changeRead,
        .inr ⟨_, timed,
          (faults_saveDetails_iff h hl editable timed).2 (.inr ⟨⟨storable, unreadable⟩, rfl⟩)⟩⟩

theorem faults_existingDriver_iff (ho : w.isOpen = true) {id : Int} {α : Type}
    {k : Driver → Operation α} :
    Faults (existingDriver id >>= k) w s ↔ ∃ d, w.tables.driver? id = some d ∧ Faults (k d) w s := by
  have hfind : (liftM (Drivers.find? id) : Operation (Option Driver)) w
      = (.ok (w.tables.driver? id), w) :=
    lift_ok_iff.2 (query_run ho)
  unfold existingDriver
  rw [bind_assoc, faults_bind_of_ok hfind, faults_orFail_bind_iff rfl]

theorem faults_createShift_iff (ho : w.isOpen = true) {driver : Int} {departure : DateTime} :
    Faults (createShift driver departure) w s ↔ Overreach w (.createShift driver departure) s := by
  unfold createShift
  rw [faults_existingDriver_iff ho]
  have hinsert : (w.tables.driver? driver).isSome = true →
      (Faults (liftM (Shifts.insert driver (.ofDateTime departure)) : Operation Shift) w s ↔
        (∃ e, IsRefused [.time (.ofDateTime departure)] e ∧ s = .error (.database e)) ∨
        ((Storable [.time (.ofDateTime departure)] ∧
          (WallClock.ofDateTime departure).isReadable = false) ∧ s = .timeOverflow)) := by
    intro hknown
    refine faults_lift_of_stops fun t => ?_
    rw [Shifts.stops_insert_iff ho hknown, and_assoc]
  constructor
  · rintro ⟨d, hd, hfault⟩
    have hknown := Option.isSome_of_eq_some hd
    rcases (hinsert hknown).1 hfault with ⟨e, hrefused, rfl⟩ | ⟨⟨-, hunreadable⟩, rfl⟩
    · exact .newDeparture hknown hrefused
    · cases WallClock.isReadable_eq_false_iff.1 hunreadable
      exact .newShift hknown
  · intro h
    cases h with
    | newDeparture known refused =>
      obtain ⟨d, hd⟩ := Option.isSome_iff_exists.1 known
      exact ⟨d, hd, (hinsert known).2 (.inl ⟨_, refused, rfl⟩)⟩
    | newShift known =>
      obtain ⟨d, hd⟩ := Option.isSome_iff_exists.1 known
      exact ⟨d, hd, (hinsert known).2
        (.inr ⟨⟨storable_last, WallClock.isReadable_eq_false_iff.2 rfl⟩, rfl⟩)⟩

theorem not_faults_existingDriver (ho : w.isOpen = true) (id : Int) :
    ¬ Faults (existingDriver id) w s := by
  rw [← bind_pure (existingDriver id), faults_existingDriver_iff ho]
  rintro ⟨d, -, hfault⟩
  simp [Faults, stops_iff] at hfault

/-- An edit of a shift fails where its update does, once the driver that it names has been found. -/
theorem faults_updateShift_iff_of_lookup (hlookup : ∀ d, ¬ Faults (existingDriver d) w s)
    {shift : Int} {change : ShiftChange} :
    Faults (updateShift shift change) w s ↔
      change.patch.isEmpty = false ∧ (change.driverId.isSome = true → w.isOpen = true) ∧
      Shifts.DriverExists w.tables change.patch ∧
      Faults (do orFail (.shiftNotFound shift) (← liftM (Shifts.update shift change.patch)) :
        Operation Shift) w s := by
  unfold updateShift
  rw [faults_ite_iff, faults_fail_iff rfl, and_false, false_or, Bool.not_eq_true]
  refine and_congr_right fun _ => ?_
  cases hd : change.driverId with
  | none => simp [Shifts.DriverExists, ShiftChange.patch, hd]
  | some d =>
    dsimp only
    rw [faults_bind_iff, or_iff_right (hlookup d)]
    simp only [existingDriver_ok_iff]
    constructor
    · rintro ⟨row, _, ⟨ho, hrow, rfl⟩, h⟩
      refine ⟨fun _ => ho, ?_, h⟩
      simp [Shifts.DriverExists, ShiftChange.patch, hd, hrow]
    · rintro ⟨ho, hknown, h⟩
      obtain ⟨row, hrow⟩ := Option.isSome_iff_exists.1 (hknown d hd)
      exact ⟨row, w, ⟨ho rfl, hrow, rfl⟩, h⟩

theorem faults_updateShift_iff (h : w.IsCalm) {shift : Int} {change : ShiftChange} :
    Faults (updateShift shift change) w s ↔ Overreach w (.updateShift shift change) s := by
  have hupdate : Shifts.DriverExists w.tables change.patch →
      (Faults (do orFail (.shiftNotFound shift) (← liftM (Shifts.update shift change.patch)) :
          Operation Shift) w s ↔
        (∃ e, IsRefused (optionalTime change.patch.departureTime) e ∧ s = .error (.database e)) ∨
        ((Storable (optionalTime change.patch.departureTime) ∧
          ∃ row ∈ w.tables.shift? shift, (change.patch.apply row).isReadable = false) ∧
          s = .timeOverflow)) := by
    intro hknown
    refine (faults_bind_orFail_iff rfl).trans (faults_lift_of_stops fun t => ?_)
    rw [Shifts.stops_update_iff h hknown, and_assoc]
  rw [faults_updateShift_iff_of_lookup (not_faults_existingDriver h.isOpen),
    and_iff_right fun _ => h.isOpen]
  constructor
  · rintro ⟨hnamed, hknown, hfault⟩
    rcases (hupdate hknown).1 hfault with ⟨e, hrefused, rfl⟩ | ⟨⟨-, row, hrow, hunreadable⟩, rfl⟩
    · exact .editedDeparture hnamed hknown hrefused
    · exact .editedShift hnamed hknown hrow hunreadable
  · intro h
    cases h with
    | editedDeparture named known refused =>
      exact ⟨named, known, (hupdate known).2 (.inl ⟨_, refused, rfl⟩)⟩
    | editedShift named known found unreadable =>
      exact ⟨named, known, (hupdate known).2
        (.inr ⟨⟨storable_of_unreadable unreadable, _, found, unreadable⟩, rfl⟩)⟩

theorem faults_createDriver_iff (ho : w.isOpen = true) {input : DriverInput} :
    Faults (createDriver input) w s ↔ Overreach w (.createDriver input) s := by
  unfold createDriver
  rw [faults_ofExcept_bind_iff fun _ => isCallerError_of_checkProfile]
  have hinsert : checkProfile input = .ok () →
      (Faults (liftM (Drivers.insert input) : Operation Driver) w s ↔ ∃ e,
        IsRefused [.text input.name, .text input.carModel] e ∧ s = .error (.database e)) :=
    fun hvalid => faults_lift_of_refused fun _ =>
      Drivers.stops_insert_iff ho (isAllowed_of_checkProfile hvalid)
  constructor
  · rintro ⟨_, hvalid, hfault⟩
    obtain ⟨e, hrefused, rfl⟩ := (hinsert hvalid).1 hfault
    exact .newDriver hvalid hrefused
  · intro h
    cases h with
    | newDriver valid refused => exact ⟨(), valid, (hinsert valid).2 ⟨_, refused, rfl⟩⟩

theorem faults_updateDriver_iff (ho : w.isOpen = true) {driver : Int} {input : DriverInput} :
    Faults (updateDriver driver input) w s ↔ Overreach w (.updateDriver driver input) s := by
  unfold updateDriver
  rw [faults_ofExcept_bind_iff fun _ => isCallerError_of_checkProfile]
  have hupdate : checkProfile input = .ok () →
      (Faults (liftM (Drivers.update driver input) : Operation (Option Driver)) w s ↔ ∃ e,
        IsRefused [.text input.name, .text input.carModel] e ∧ s = .error (.database e)) :=
    fun hvalid => faults_lift_of_refused fun _ =>
      Drivers.stops_update_iff ho (isAllowed_of_checkProfile hvalid)
  constructor
  · rintro ⟨_, hvalid, hfault⟩
    obtain ⟨e, hrefused, rfl⟩ := (hupdate hvalid).1 ((faults_bind_orFail_iff rfl).1 hfault)
    exact .editedDriver hvalid hrefused
  · intro h
    cases h with
    | editedDriver valid refused =>
      exact ⟨(), valid, (faults_bind_orFail_iff rfl).2 ((hupdate valid).2 ⟨_, refused, rfl⟩)⟩

/-! ### Every input -/

/-- The call hands over what a known rider or an operator has sent. -/
def Call.TakesInput (w : World) : Call → Prop
  | .createRequest rider _ => (w.tables.user? rider).isSome = true
  | .editRequest .. | .createShift .. | .updateShift .. | .createDriver .. | .updateDriver .. => True
  | _ => False

/-- The call succeeds, or it tells the caller what is wrong. -/
def Call.IsAnswered (wait : Int) (w : World) (c : Call) : Prop :=
  (∃ a, (c.perform wait w).1 = .ok a) ∨
    ∃ e, (c.perform wait w).1 = .error (.error e) ∧ e.isCallerError = true

theorem isAnswered_iff {wait : Int} {c : Call} :
    c.IsAnswered wait w ↔ ¬ ∃ s, Faults (c.perform wait) w s := by
  unfold Call.IsAnswered Faults
  simp only [stops_iff]
  rcases (c.perform wait w).1 with (e | _) | a
  · cases he : e.isCallerError <;> simp [Stop.IsFault, he]
  · simp [Stop.IsFault]
  · simp

theorem faults_perform_iff (h : w.IsCalm) (hl : w.tables.Lawful) {wait : Int}
    (hwait : wait ≤ greatestLockTimeout) {c : Call} (hc : c.TakesInput w) :
    Faults (c.perform wait) w s ↔ Overreach w c s := by
  cases c with
  | createRequest rider input => exact faults_map_iff.trans (faults_createRequest_iff h.isOpen hc)
  | editRequest rider request edit => exact faults_map_iff.trans (faults_editRequest_iff h hl hwait)
  | createShift driver departure => exact faults_map_iff.trans (faults_createShift_iff h.isOpen)
  | updateShift shift change => exact faults_map_iff.trans (faults_updateShift_iff h)
  | createDriver input => exact faults_map_iff.trans (faults_createDriver_iff h.isOpen)
  | updateDriver driver input => exact faults_map_iff.trans (faults_updateDriver_iff h.isOpen)
  | _ => exact hc.elim

/-- While the store is open, its rules hold and nothing is held, every input of a known rider or of
an operator is answered, unless it reaches too far; and then the call stops because a time leaves
the calendar, or with the error of the store, as `Overreach` says. -/
theorem input_answered_iff (wait : Int) (c : Call) (w : World) (h : w.IsCalm)
    (hl : w.tables.Lawful) (hwait : wait ≤ greatestLockTimeout) (hc : c.TakesInput w) :
    (c.IsAnswered wait w ↔ ¬ ∃ s, Overreach w c s) ∧
    ∀ s, Overreach w c s ↔ (c.perform wait w).1 = .error s ∧ s.IsFault := by
  have hfaults : ∀ s, Faults (c.perform wait) w s ↔ Overreach w c s :=
    fun _ => faults_perform_iff h hl hwait hc
  constructor
  · rw [isAnswered_iff]
    simp only [hfaults]
  · intro s
    rw [← hfaults, Faults, stops_iff]

/-- The request of the small desk does not reach too far. -/
theorem smallRequest_answered :
    smallDesk.IsCalm ∧ smallDesk.tables.Lawful ∧ smallRequest.TakesInput smallDesk ∧
    smallRequest.IsAnswered 0 smallDesk ∧ ¬ ∃ s, Overreach smallDesk smallRequest s := by
  have hcalm : smallDesk.IsCalm := ⟨rfl, rfl, rfl⟩
  have hlawful := isFresh_smallDesk.sound.lawful
  have hok : ∃ a, (smallRequest.perform 0 smallDesk).1 = .ok a := by
    have hisOk : (smallRequest.perform 0 smallDesk).1.isOk = true := by decide +kernel
    cases hrun : (smallRequest.perform 0 smallDesk).1 with
    | ok a => exact ⟨a, rfl⟩
    | error s =>
      rw [hrun] at hisOk
      cases hisOk
  obtain ⟨hanswered, -⟩ :=
    input_answered_iff 0 smallRequest smallDesk hcalm hlawful (by decide) rfl
  exact ⟨hcalm, hlawful, rfl, .inl hok, hanswered.1 (.inl hok)⟩

/-- A request whose arrival lies within the calendar, but not its pickup. -/
def lateRequest : Call :=
  .createRequest 1 ⟨"CA1", "2026-03-01", "T5", 1, 2, "+262142-12-31 23:59:00"⟩

/-- The arrival is accepted, and then the call stops. -/
theorem lateRequest_not_answered :
    smallDesk.IsCalm ∧ smallDesk.tables.Lawful ∧ lateRequest.TakesInput smallDesk ∧
    (lateRequest.perform 0 smallDesk).1 = .error .timeOverflow ∧
    ¬ lateRequest.IsAnswered 0 smallDesk := by
  have hstop : (lateRequest.perform 0 smallDesk).1 = .error .timeOverflow := by decide +kernel
  refine ⟨⟨rfl, rfl, rfl⟩, isFresh_smallDesk.sound.lawful, rfl, hstop, ?_⟩
  unfold Call.IsAnswered
  rw [hstop]
  rintro (⟨a, ha⟩ | ⟨e, he, -⟩)
  · cases ha
  · cases he

end Desk

end ShuttleDesk
