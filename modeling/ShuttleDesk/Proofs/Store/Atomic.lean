/-
  ShuttleDesk/Proofs/Store/Atomic.lean
  ====================================
  What a procedure leaves alone.  Looking something up leaves the whole world alone,
  and a statement that writes leaves the ids alone.  A procedure is atomic if it has
  changed no row when it stops: so is one that only looks things up before its one
  write, and so is every transaction.
-/
import ShuttleDesk.Desk.Operation
import ShuttleDesk.Proofs.Store.Constraints

namespace ShuttleDesk

/-- No id has been taken back. -/
structure Issued.Le (a b : Issued) : Prop where
  users : a.users ≤ b.users
  drivers : a.drivers ≤ b.drivers
  requests : a.requests ≤ b.requests
  shifts : a.shifts ≤ b.shifts

theorem Issued.Le.refl (a : Issued) : a.Le a :=
  ⟨Int.le_refl _, Int.le_refl _, Int.le_refl _, Int.le_refl _⟩

theorem Issued.Le.trans {a b c : Issued} (h : a.Le b) (k : b.Le c) : a.Le c where
  users := Int.le_trans h.users k.users
  drivers := Int.le_trans h.drivers k.drivers
  requests := Int.le_trans h.requests k.requests
  shifts := Int.le_trans h.shifts k.shifts

/-- No row has changed.  Ids may have been given out. -/
structure World.Unwritten (w w' : World) : Prop where
  tables : w'.tables = w.tables
  issued : w.issued.Le w'.issued

theorem World.Unwritten.refl (w : World) : w.Unwritten w := ⟨rfl, .refl _⟩

theorem World.Unwritten.trans {u v w : World} (h : u.Unwritten v) (k : v.Unwritten w) :
    u.Unwritten w :=
  ⟨k.tables.trans h.tables, h.issued.trans k.issued⟩

namespace Procedure

variable {ε ε' α β γ : Type} {x : Procedure ε α}

/-- Whatever comes of it, the procedure leaves this of the world as it is. -/
def Keeps (f : World → γ) (x : Procedure ε α) : Prop := ∀ w, f (x w).2 = f w

/-- Whatever comes of it, the procedure changes no row. -/
def Harmless (x : Procedure ε α) : Prop := ∀ w : World, w.Unwritten (x w).2

/-- If the procedure stops, it has changed no row. -/
def Atomic (x : Procedure ε α) : Prop := ∀ (w : World) e w', x w = (.error e, w') → w.Unwritten w'

namespace Keeps

variable {f : World → γ}

/-- What leaves the world alone leaves every part of it alone. -/
theorem of_id (h : Keeps id x) : Keeps f x := fun w => congrArg f (h w)

theorem pure (a : α) : Keeps f (Pure.pure a : Procedure ε α) := fun _ => rfl

theorem fail (e : ε) : Keeps f (Procedure.fail e : Procedure ε α) := fun _ => rfl

theorem overflow : Keeps f (Procedure.overflow : Procedure ε α) := fun _ => rfl

theorem world : Keeps f (Procedure.world : Procedure ε World) := fun _ => rfl

theorem changeTables (g : Tables → Tables) :
    Keeps World.issued (Procedure.changeTables g : Procedure ε Unit) := fun _ => rfl

theorem bind {k : α → Procedure ε β} (hx : Keeps f x) (hk : ∀ a, Keeps f (k a)) :
    Keeps f (x >>= k) := by
  intro w
  have h := hx w
  rw [bind_run]
  rcases hw : x w with ⟨_ | a, w₁⟩ <;> rw [hw] at h
  · exact h
  · exact (hk a w₁).trans h

theorem ite {p : Prop} [Decidable p] {y : Procedure ε α} (hx : Keeps f x) (hy : Keeps f y) :
    Keeps f (if p then x else y) := by
  split
  · exact hx
  · exact hy

theorem mapError (g : ε → ε') (hx : Keeps f x) : Keeps f (x.mapError g) := by
  intro w
  have h := hx w
  rw [mapError_run]
  rcases hw : x w with ⟨(_ | _) | _, w₁⟩ <;> rw [hw] at h <;> exact h

theorem ofExcept (r : Except ε α) : Keeps f (Procedure.ofExcept r) := by
  cases r
  · exact fail _
  · exact pure _

theorem orFail (e : ε) (a : Option α) : Keeps f (Procedure.orFail e a) := by
  cases a
  · exact fail _
  · exact pure _

theorem lift {x : Statement α} (hx : Keeps f x) : Keeps f (liftM x : Operation α) := hx.mapError _

/-- A transaction takes back rows, but no ids. -/
theorem transaction (hx : Keeps World.issued x) : Keeps World.issued (Procedure.transaction x) := by
  intro w
  have h := hx w
  unfold Procedure.transaction
  rcases hr : x w with ⟨_ | a, w₁⟩ <;> rw [hr] at h <;> exact h

theorem harmless (hx : Keeps id x) : Harmless x := by
  intro w
  have hid : (x w).2 = w := hx w
  rw [hid]
  exact .refl w

end Keeps

namespace Atomic

theorem of_harmless (h : Harmless x) : Atomic x := by
  intro w e w' hw
  have hx := h w
  rw [hw] at hx
  exact hx

theorem of_keeps (h : Keeps id x) : Atomic x := of_harmless h.harmless

/-- What is sure to answer does not stop. -/
theorem of_answers (h : ∀ w, ∃ a w', x w = (.ok a, w')) : Atomic x := by
  intro w e w' hw
  obtain ⟨a, w₁, hx⟩ := h w
  rw [hx] at hw
  cases hw

/-- Looking something up first, or giving an id out, does no harm. -/
theorem bind {k : α → Procedure ε β} (hx : Harmless x) (hk : ∀ a, Atomic (k a)) :
    Atomic (x >>= k) := by
  intro w e w' hw
  have h := hx w
  rcases bind_error_iff.1 hw with hw | ⟨a, w₁, ha, hw⟩
  · rw [hw] at h
    exact h
  · rw [ha] at h
    exact h.trans (hk a w₁ e w' hw)

/-- What is sure to answer may follow. -/
theorem bind_answers {k : α → Procedure ε β} (hx : Atomic x)
    (hk : ∀ a w, ∃ b w', k a w = (.ok b, w')) : Atomic (x >>= k) := by
  intro w e w' hw
  rcases bind_error_iff.1 hw with hw | ⟨a, w₁, -, hw⟩
  · exact hx w e w' hw
  · obtain ⟨b, w₂, hb⟩ := hk a w₁
    rw [hb] at hw
    cases hw

theorem map (g : α → β) (hx : Atomic x) : Atomic (g <$> x) := by
  intro w e w' hw
  rw [map_run] at hw
  rcases hr : x w with ⟨_ | a, w₁⟩ <;> rw [hr] at hw <;> cases hw
  exact hx w _ _ hr

theorem ite {p : Prop} [Decidable p] {y : Procedure ε α} (hx : Atomic x) (hy : Atomic y) :
    Atomic (if p then x else y) := by
  split
  · exact hx
  · exact hy

theorem mapError (g : ε → ε') (hx : Atomic x) : Atomic (x.mapError g) := by
  intro w e w' hw
  rw [mapError_run] at hw
  rcases hr : x w with ⟨(_ | _) | _, w₁⟩ <;> rw [hr] at hw <;> cases hw <;> exact hx w _ _ hr

theorem lift {x : Statement α} (hx : Atomic x) : Atomic (liftM x : Operation α) := hx.mapError _

/-- A transaction that stops puts the tables back. -/
theorem transaction (hx : Keeps World.issued x) : Atomic (Procedure.transaction x) := by
  intro w e w' hw
  have h := hx.transaction w
  rw [hw] at h
  refine ⟨tables_of_transaction_error hw, ?_⟩
  rw [h]
  exact .refl _

end Atomic

end Procedure

open Procedure

/-! ### Statements that only look -/

namespace Statement

variable {α : Type}

theorem keeps_ensureOpen : Keeps id ensureOpen :=
  .bind .world fun _ => .ite (.pure _) (.fail _)

theorem keeps_query (f : Tables → α) : Keeps id (query f) :=
  .bind keeps_ensureOpen fun _ => .bind .world fun _ => .pure _

theorem keeps_setLockTimeout (millis : Int) : Keeps id (setLockTimeout millis) :=
  .bind keeps_ensureOpen fun _ => .ite (.pure _) (.fail _)

theorem keeps_awaitShifts (ids : List Int) : Keeps id (awaitShifts ids) :=
  .bind .world fun _ => .ite (.fail _) (.pure _)

theorem keeps_awaitRequests (ids : List Int) : Keeps id (awaitRequests ids) :=
  .bind .world fun _ => .ite (.fail _) (.pure _)

theorem keeps_checkArguments (args : List Argument) : Keeps id (checkArguments args) := by
  refine .bind keeps_ensureOpen fun _ => ?_
  cases args.findSome? Argument.flaw?
  · exact .pure _
  · exact .fail _

theorem keeps_readable (p : α → Bool) (rows : List α) : Keeps id (readable p rows) :=
  .ite (.pure _) .overflow

theorem keeps_readableRow? (p : α → Bool) (row : Option α) : Keeps id (readableRow? p row) :=
  .ite (.pure _) .overflow

end Statement

open Statement

theorem Requests.keeps_countOf (user : Int) : Keeps id (Requests.countOf user) := keeps_query _

theorem Requests.keeps_find? (request : Int) : Keeps id (Requests.find? request) :=
  .bind (keeps_query _) fun _ => keeps_readableRow? _ _

theorem Requests.keeps_listOf (user : Int) : Keeps id (Requests.listOf user) :=
  .bind (keeps_query _) fun _ => keeps_readable _ _

theorem Requests.keeps_listIn (status : RequestStatus) : Keeps id (Requests.listIn status) :=
  .bind (keeps_query _) fun _ => keeps_readable _ _

theorem Requests.keeps_listOn (shift : Int) : Keeps id (Requests.listOn shift) :=
  .bind (keeps_query _) fun _ => keeps_readable _ _

theorem Requests.keeps_lockFound (found : Option Request) : Keeps id (Requests.lockFound found) :=
  .bind (keeps_awaitRequests _) fun _ => keeps_readableRow? _ _

theorem Requests.keeps_lock (request : Int) : Keeps id (Requests.lock request) :=
  .bind (keeps_query _) fun _ => keeps_lockFound _

theorem Requests.keeps_lockOwned (request user : Int) :
    Keeps id (Requests.lockOwned request user) :=
  .bind (keeps_query _) fun _ => keeps_lockFound _

theorem Requests.keeps_flightsOn (date : Calendar.Date) : Keeps id (Requests.flightsOn date) :=
  .bind (keeps_checkArguments _) fun _ => keeps_query _

theorem Shifts.keeps_list : Keeps id Shifts.list :=
  .bind (keeps_query _) fun _ => keeps_readable _ _

theorem Shifts.keeps_lock (shift : Int) : Keeps id (Shifts.lock shift) :=
  .bind (keeps_query _) fun _ => .bind (keeps_awaitShifts _) fun _ => keeps_readableRow? _ _

theorem Shifts.keeps_lockWithCapacity (shift : Int) : Keeps id (Shifts.lockWithCapacity shift) :=
  .bind keeps_ensureOpen fun _ => .bind .world fun _ => .bind (keeps_awaitShifts _) fun _ => .pure _

theorem Shifts.keeps_load (shift : Int) : Keeps id (Shifts.load shift) := keeps_query _

theorem Shifts.keeps_summaries (requests : List Int) : Keeps id (Shifts.summaries requests) :=
  .bind (keeps_query _) fun _ => keeps_readable _ _

theorem Drivers.keeps_find? (driver : Int) : Keeps id (Drivers.find? driver) := keeps_query _

theorem Users.keeps_find? (user : Int) : Keeps id (Users.find? user) := keeps_query _

theorem Staffings.keeps_listOf (shift : Int) : Keeps id (Staffings.listOf shift) := keeps_query _

/-! ### Statements that write rows and give out no id -/

theorem Requests.keeps_updateRows (chosen : Tables → Request → Bool) (edit : Request → Request) :
    Keeps World.issued (Requests.updateRows chosen edit) :=
  .bind .world fun _ => .bind (keeps_awaitRequests _).of_id fun _ =>
    .bind (.changeTables _) fun _ => .pure _

theorem Requests.keeps_setStatus (request : Int) (status : RequestStatus) :
    Keeps World.issued (Requests.setStatus request status) :=
  .bind keeps_ensureOpen.of_id fun _ => .bind (keeps_updateRows _ _) fun _ => .pure _

theorem Requests.keeps_publishOn (shift : Int) : Keeps World.issued (Requests.publishOn shift) :=
  .bind keeps_ensureOpen.of_id fun _ => keeps_updateRows _ _

theorem Requests.keeps_saveDetails (details : Request) :
    Keeps World.issued (Requests.saveDetails details) := by
  refine .bind (keeps_checkArguments _).of_id fun _ => .ite (.fail _) ?_
  refine .bind (keeps_updateRows _ _) fun _ => .bind (keeps_find? _).of_id fun r => ?_
  cases r
  · exact .fail _
  · exact .pure _

theorem Requests.keeps_applyRefresh (f : Flight.Refresh) :
    Keeps World.issued (Requests.applyRefresh f) :=
  .bind (keeps_checkArguments _).of_id fun _ => keeps_updateRows _ _

theorem Shifts.keeps_setStatus (shift : Int) (status : ShiftStatus) :
    Keeps World.issued (Shifts.setStatus shift status) :=
  .bind keeps_ensureOpen.of_id fun _ => .bind .world fun _ =>
    .bind (keeps_awaitShifts _).of_id fun _ => .changeTables _

theorem Bindings.keeps_insert (shift request : Int) :
    Keeps World.issued (Bindings.insert shift request) :=
  .bind keeps_ensureOpen.of_id fun _ => .bind .world fun _ =>
    .ite (.fail _) (.ite (.fail _) (.ite (.fail _) (.changeTables _)))

theorem Bindings.keeps_delete (shift request : Int) :
    Keeps World.issued (Bindings.delete shift request) :=
  .bind keeps_ensureOpen.of_id fun _ => .bind .world fun _ =>
    .bind (.changeTables _) fun _ => .pure _

theorem Staffings.keeps_insert (shift staff : Int) :
    Keeps World.issued (Staffings.insert shift staff) :=
  .bind keeps_ensureOpen.of_id fun _ => .bind .world fun _ =>
    .ite (.pure _) (.ite (.fail _) (.bind (.changeTables _) fun _ => .pure _))

theorem Staffings.keeps_delete (shift staff : Int) :
    Keeps World.issued (Staffings.delete shift staff) :=
  .bind keeps_ensureOpen.of_id fun _ => .bind .world fun _ =>
    .bind (.changeTables _) fun _ => .pure _

/-! ### Statements that stand on their own

An id stays given out when the row is refused.  A shift is the one kind of row that can be
written and then not be read back. -/

theorem Requests.harmless_nextId : Harmless Requests.nextId := by
  intro w
  refine ⟨rfl, Int.le_refl _, Int.le_refl _, ?_, Int.le_refl _⟩
  change w.issued.requests ≤ w.issued.requests + 1
  omega

theorem Shifts.harmless_nextId : Harmless Shifts.nextId := by
  intro w
  refine ⟨rfl, Int.le_refl _, Int.le_refl _, Int.le_refl _, ?_⟩
  change w.issued.shifts ≤ w.issued.shifts + 1
  omega

theorem Drivers.harmless_nextId : Harmless Drivers.nextId := by
  intro w
  refine ⟨rfl, Int.le_refl _, ?_, Int.le_refl _, Int.le_refl _⟩
  change w.issued.drivers ≤ w.issued.drivers + 1
  omega

theorem Requests.atomic_insert {user : Int} {n : NewRequest}
    (h : n.arrivalTime.all Calendar.WallClock.isReadable = true ∧
      n.calcPickupTime.all Calendar.WallClock.isReadable = true) :
    Atomic (Requests.insert user n) := by
  refine .bind (keeps_checkArguments _).harmless fun _ => .bind harmless_nextId fun id => ?_
  refine .bind Keeps.world.harmless fun w => ?_
  refine .ite (.of_keeps (.fail _)) (.ite (.of_keeps (.fail _)) (.of_answers fun v => ?_))
  have hrow : (ofNew id user n w.now).isReadable = true := by
    simp [Request.isReadable, ofNew, h]
  exact ⟨ofNew id user n w.now, _, by simp [bind_run, readableRow, hrow]; rfl⟩

theorem Drivers.atomic_insert (input : DriverInput) : Atomic (Drivers.insert input) := by
  refine .bind (keeps_checkArguments _).harmless fun _ => .bind harmless_nextId fun id => ?_
  refine .ite (.of_answers fun v => ?_) (.of_keeps (.fail _))
  exact ⟨ofInput id input, _, rfl⟩

theorem Drivers.atomic_update (id : Int) (input : DriverInput) :
    Atomic (Drivers.update id input) := by
  refine .bind (keeps_checkArguments _).harmless fun _ => .bind (keeps_find? _).harmless fun d => ?_
  cases d with
  | none => exact .of_keeps (.pure _)
  | some d =>
    refine .ite (.of_answers fun v => ?_) (.of_keeps (.fail _))
    exact ⟨some (ofInput id input), _, rfl⟩

namespace Shifts

variable {w w' : World} {s : Stop StorageError}

/-- A draft is written and cannot be read back. -/
structure InsertsUnreadable (w : World) (driver : Int) (departure : Calendar.WallClock) : Prop where
  isOpen : w.isOpen = true
  storable : Storable [.time departure]
  driver : (w.tables.driver? driver).isSome = true
  unreadable : departure.isReadable = false

/-- The world that is left behind. -/
def afterInsert (w : World) (driver : Int) (departure : Calendar.WallClock) : World :=
  w.issueShift.withTables
    (w.tables.addShift (ofNew (w.issued.shifts + 1) driver departure w.now))

theorem insert_error {driver : Int} {departure : Calendar.WallClock}
    (h : insert driver departure w = (.error s, w')) :
    w.Unwritten w' ∨
      (InsertsUnreadable w driver departure ∧ s = .timeOverflow ∧
        w' = afterInsert w driver departure) := by
  rcases bind_error_iff.1 h with h | ⟨_, _, hargs, h⟩
  · exact .inl (Atomic.of_keeps (keeps_checkArguments _) w s w' h)
  obtain ⟨ho, hs, rfl⟩ := checkArguments_ok_iff.1 hargs
  have hissued := harmless_nextId w
  rcases bind_error_iff.1 h with h | ⟨_, _, hid, h⟩
  · rw [h] at hissued
    exact .inl hissued
  rw [hid] at hissued
  obtain ⟨rfl, rfl⟩ := nextId_ok_iff.1 hid
  simp only [bind_error_iff, world_error_iff, world_ok_iff, ite_error_iff, fail_error_iff,
    changeTables_error_iff, changeTables_ok_iff, readableRow, pure_error_iff, overflow_error_iff,
    false_or, and_false] at h
  obtain ⟨_, _, ⟨rfl, rfl⟩, ⟨-, -, rfl⟩ | ⟨hd, _, _, rfl, hr, rfl, rfl⟩⟩ := h
  · exact .inl hissued
  · refine .inr ⟨⟨ho, hs, ?_, ?_⟩, rfl, rfl⟩
    · have hd : ¬ (w.tables.driver? driver).isNone = true := hd
      simpa [Option.isSome_iff_ne_none] using hd
    · simpa [Shift.isReadable] using hr

theorem insert_of_unreadable {driver : Int} {departure : Calendar.WallClock}
    (h : InsertsUnreadable w driver departure) :
    insert driver departure w = (.error .timeOverflow, afterInsert w driver departure) := by
  have hargs : checkArguments [.time departure] w = (.ok (), w) :=
    checkArguments_ok_iff.2 ⟨h.isOpen, h.storable, rfl⟩
  have hid : nextId w = (.ok (w.issued.shifts + 1), w.issueShift) := nextId_ok_iff.2 ⟨rfl, rfl⟩
  refine bind_error_iff.2 (.inr ⟨_, _, hargs, bind_error_iff.2 (.inr ⟨_, _, hid, ?_⟩)⟩)
  have hd : (w.issueShift.tables.driver? driver).isNone = false := by
    rw [Option.isNone_eq_false_iff]
    exact h.driver
  rw [bind_run, world_run]
  simp only [hd, Bool.false_eq_true, if_false]
  simp only [bind_run, changeTables_run, readableRow, Shift.isReadable, h.unreadable,
    Bool.false_eq_true, if_false, overflow_run]
  rfl

/-- The row with an id, after a change, cannot be read back. -/
structure UpdatesUnreadable (w : World) (id : Int) (patch : ShiftPatch) : Prop where
  isOpen : w.isOpen = true
  storable : Storable (optionalTime patch.departureTime)
  free : ∀ s ∈ w.tables.shift? id, s.id ∉ w.heldShifts
  driver : DriverExists w.tables patch
  unreadable : ∃ s ∈ (w.tables.editShift id patch.apply).shift? id, s.isReadable = false

/-- The world that is left behind. -/
def afterUpdate (w : World) (id : Int) (patch : ShiftPatch) : World :=
  w.withTables (w.tables.editShift id patch.apply)

theorem find?_run_of_isOpen {id : Int} (ho : w.isOpen = true) :
    find? id w = readableRow? Shift.isReadable (w.tables.shift? id) w := by
  rw [find?, bind_run, query_run ho]

theorem update_error {id : Int} {patch : ShiftPatch} (h : update id patch w = (.error s, w')) :
    w.Unwritten w' ∨
      (UpdatesUnreadable w id patch ∧ s = .timeOverflow ∧ w' = afterUpdate w id patch) := by
  rcases bind_error_iff.1 h with h | ⟨_, _, hargs, h⟩
  · exact .inl (Atomic.of_keeps (keeps_checkArguments _) w s w' h)
  obtain ⟨ho, hs, rfl⟩ := checkArguments_ok_iff.1 hargs
  rw [bind_run, world_run] at h
  rcases bind_error_iff.1 h with h | ⟨_, _, hawait, h⟩
  · exact .inl (Atomic.of_keeps (keeps_awaitShifts _).of_id w s w' h)
  obtain ⟨hfree, rfl⟩ := awaitShifts_found_ok_iff.1 hawait
  cases hf : w.tables.shift? id with
  | none =>
    rw [hf] at h
    cases h
  | some s₀ =>
    simp only [hf, ite_error_iff, fail_error_iff] at h
    rcases h with ⟨-, -, rfl⟩ | ⟨hd, h⟩
    · exact .inl (.refl w)
    · rw [bind_run, changeTables_run] at h
      change find? id (afterUpdate w id patch) = (.error s, w') at h
      have ho' : (afterUpdate w id patch).isOpen = true := ho
      rw [find?_run_of_isOpen ho'] at h
      simp only [readableRow?, ite_error_iff, pure_error_iff, and_false, false_or,
        overflow_error_iff] at h
      obtain ⟨hr, rfl, rfl⟩ := h
      refine .inr ⟨⟨ho, hs, hfree, (driverExists_iff _ _).1 (by simpa using hd), ?_⟩, rfl, rfl⟩
      simpa [Option.all_eq_true, afterUpdate] using hr

theorem update_of_unreadable {id : Int} {patch : ShiftPatch} (h : UpdatesUnreadable w id patch) :
    update id patch w = (.error .timeOverflow, afterUpdate w id patch) := by
  obtain ⟨s, hs, hr⟩ := h.unreadable
  have hargs : checkArguments (optionalTime patch.departureTime) w = (.ok (), w) :=
    checkArguments_ok_iff.2 ⟨h.isOpen, h.storable, rfl⟩
  -- the row that cannot be read back was there before
  have hf : (w.tables.shift? id).isSome = true := by
    have hid : ∀ s, (patch.apply s).id = s.id := fun _ => rfl
    rw [Option.mem_def, Tables.shift?_editShift hid, Option.map_eq_some_iff] at hs
    obtain ⟨s₀, hs₀, -⟩ := hs
    simp [hs₀]
  obtain ⟨s₀, hf⟩ := Option.isSome_iff_exists.1 hf
  have hd := (driverExists_iff _ _).2 h.driver
  have hawait : awaitShifts ((w.tables.shift? id).toList.map (·.id)) w = (.ok (), w) :=
    awaitShifts_found_ok_iff.2 ⟨h.free, rfl⟩
  rw [update, bind_run, hargs]
  simp only [bind_run, world_run, hawait]
  simp only [hf, hd, Bool.false_eq_true, if_false, bind_run, changeTables_run]
  change find? id (afterUpdate w id patch) = _
  have ho : (afterUpdate w id patch).isOpen = true := h.isOpen
  rw [find?_run_of_isOpen ho]
  have hall : ((afterUpdate w id patch).tables.shift? id).all Shift.isReadable = false := by
    change ((w.tables.editShift id patch.apply).shift? id).all Shift.isReadable = false
    rw [Option.mem_def.1 hs]
    exact hr
  simp [readableRow?, hall]

end Shifts

end ShuttleDesk
