/-
  ShuttleDesk/Proofs/Store/Answers.lean
  =====================================
  When a statement of the store answers, what it answers, and the world it leaves:
  one equivalence for each statement.  Whoever uses a statement reads its equivalence
  and does not look at the statement again.
-/
import Mathlib.Data.List.Nodup
import ShuttleDesk.Proofs.Store.Changes
import ShuttleDesk.Store.Bindings
import ShuttleDesk.Store.Users

namespace ShuttleDesk

open Procedure Statement

variable {w w' : World}

/-! ### What every statement is made of -/

namespace Statement

variable {α : Type}

theorem ensureOpen_ok_iff {u : Unit} :
    ensureOpen w = (.ok u, w') ↔ w.isOpen = true ∧ w = w' := by
  simp [ensureOpen, bind_ok_iff, ite_ok_iff, and_comm]

theorem query_ok_iff {f : Tables → α} {a : α} :
    query f w = (.ok a, w') ↔ w.isOpen = true ∧ f w.tables = a ∧ w = w' := by
  simp only [query, bind_ok_iff, ensureOpen_ok_iff, world_ok_iff, pure_ok_iff]
  constructor
  · rintro ⟨_, _, ⟨ho, rfl⟩, _, _, ⟨rfl, rfl⟩, rfl, rfl⟩
    exact ⟨ho, rfl, rfl⟩
  · rintro ⟨ho, rfl, rfl⟩
    exact ⟨(), w, ⟨ho, rfl⟩, w, w, ⟨rfl, rfl⟩, rfl, rfl⟩

theorem query_run {f : Tables → α} (h : w.isOpen = true) : query f w = (.ok (f w.tables), w) :=
  query_ok_iff.2 ⟨h, rfl, rfl⟩

theorem query_run_of_closed {f : Tables → α} (h : ¬ w.isOpen = true) :
    query f w = (.error (.error .poolClosed), w) := by
  simp [query, ensureOpen, bind_run, h]

theorem setLockTimeout_ok_iff {millis : Int} {u : Unit} :
    setLockTimeout millis w = (.ok u, w') ↔
      w.isOpen = true ∧ millis ≤ greatestLockTimeout ∧ w = w' := by
  simp [setLockTimeout, bind_ok_iff, ite_ok_iff, ensureOpen_ok_iff, and_assoc, and_comm]

theorem awaitShifts_ok_iff {ids : List Int} {u : Unit} :
    awaitShifts ids w = (.ok u, w') ↔ (∀ id ∈ ids, id ∉ w.heldShifts) ∧ w = w' := by
  simp [awaitShifts, bind_ok_iff, ite_ok_iff, and_comm]

/-- The row that is waited for has been looked up before. -/
theorem awaitShifts_found_ok_iff {α : Type} {found : Option α} {idOf : α → Int} {u : Unit} :
    awaitShifts (found.toList.map idOf) w = (.ok u, w') ↔
      (∀ a ∈ found, idOf a ∉ w.heldShifts) ∧ w = w' := by
  simp only [awaitShifts_ok_iff, List.forall_mem_map, Option.mem_toList, Option.mem_def]

theorem awaitRequests_ok_iff {ids : List Int} {u : Unit} :
    awaitRequests ids w = (.ok u, w') ↔ (∀ id ∈ ids, id ∉ w.heldRequests) ∧ w = w' := by
  simp [awaitRequests, bind_ok_iff, ite_ok_iff, and_comm]

/-- Nothing is wrong with the arguments. -/
def Storable (args : List Argument) : Prop := ∀ a ∈ args, a.flaw? = none

instance (args : List Argument) : Decidable (Storable args) := by
  unfold Storable
  infer_instance

theorem checkArguments_ok_iff {args : List Argument} {u : Unit} :
    checkArguments args w = (.ok u, w') ↔ w.isOpen = true ∧ Storable args ∧ w = w' := by
  have h : args.findSome? Argument.flaw? = none ↔ Storable args := by
    simp [Storable, List.findSome?_eq_none_iff]
  simp only [checkArguments, bind_ok_iff, ensureOpen_ok_iff]
  rw [← h]
  cases args.findSome? Argument.flaw? <;> simp

theorem readable_run {isReadable : α → Bool} {rows : List α} :
    readable isReadable rows w =
      (if rows.all isReadable then .ok rows else .error .timeOverflow, w) := by
  unfold readable
  split <;> rfl

theorem readableRow_ok_iff {isReadable : α → Bool} {row a : α} :
    readableRow isReadable row w = (.ok a, w') ↔ isReadable row = true ∧ row = a ∧ w = w' := by
  simp [readableRow, ite_ok_iff]

theorem readableRow?_ok_iff {isReadable : α → Bool} {row a : Option α} :
    readableRow? isReadable row w = (.ok a, w') ↔
      row.all isReadable = true ∧ row = a ∧ w = w' := by
  simp [readableRow?, ite_ok_iff]

end Statement

/-! ### Requests -/

namespace Requests

theorem nextId_ok_iff {id : Int} :
    nextId w = (.ok id, w') ↔ w.issued.requests + 1 = id ∧ w.issueRequest = w' := by
  simp [nextId, bind_ok_iff, map_ok_iff, World.issueRequest, and_comm]

/-- The arguments that a new request hands over. -/
def arguments (n : NewRequest) : List Argument :=
  [.text n.flightNo, .date n.arrivalDate, .text n.terminal]
    ++ optionalTime n.arrivalTime ++ optionalTime n.calcPickupTime

theorem insert_ok_iff {user : Int} {n : NewRequest} {r : Request} :
    insert user n w = (.ok r, w') ↔
      w.isOpen = true ∧ Storable (arguments n) ∧ bagsAllowed n.checkedBags n.carryOnBags = true ∧
      (w.tables.user? user).isSome = true ∧ ofNew (w.issued.requests + 1) user n w.now = r ∧
      r.isReadable = true ∧ w.issueRequest.withTables (w.tables.addRequest r) = w' := by
  simp only [insert, bind_ok_iff, checkArguments_ok_iff, nextId_ok_iff, ite_ok_iff, fail_ok_iff,
    world_ok_iff, changeTables_ok_iff, readableRow_ok_iff, Bool.not_eq_true', Option.isNone_iff_eq_none,
    and_false, false_or]
  constructor
  · rintro ⟨_, _, ⟨ho, hs, rfl⟩, _, _, ⟨rfl, rfl⟩, _, _, ⟨rfl, rfl⟩, hb, hu, _, _, rfl, hr, rfl, rfl⟩
    exact ⟨ho, hs, by simpa using hb, Option.isSome_iff_ne_none.2 hu, rfl, hr, rfl⟩
  · rintro ⟨ho, hs, hb, hu, rfl, hr, rfl⟩
    exact ⟨(), w, ⟨ho, hs, rfl⟩, _, _, ⟨rfl, rfl⟩, _, _, ⟨rfl, rfl⟩, by simp [hb],
      Option.isSome_iff_ne_none.1 hu, (), _, rfl, hr, rfl, rfl⟩

theorem countOf_ok_iff {user : Int} {n : Nat} :
    countOf user w = (.ok n, w') ↔
      w.isOpen = true ∧ (w.tables.requestsOf user).length = n ∧ w = w' :=
  query_ok_iff

theorem find?_ok_iff {id : Int} {r : Option Request} :
    find? id w = (.ok r, w') ↔
      w.isOpen = true ∧ (w.tables.request? id).all Request.isReadable = true ∧
      w.tables.request? id = r ∧ w = w' := by
  simp only [find?, bind_ok_iff, query_ok_iff, readableRow?_ok_iff]
  constructor
  · rintro ⟨_, _, ⟨ho, rfl, rfl⟩, hr, rfl, rfl⟩
    exact ⟨ho, hr, rfl, rfl⟩
  · rintro ⟨ho, hr, rfl, rfl⟩
    exact ⟨_, w, ⟨ho, rfl, rfl⟩, hr, rfl, rfl⟩

/-- The row is free and can be read. -/
def IsFree (w : World) (r : Request) : Prop := r.id ∉ w.heldRequests ∧ r.isReadable = true

theorem lockFound_ok_iff {found r : Option Request} :
    lockFound found w = (.ok r, w') ↔ (∀ r ∈ found, IsFree w r) ∧ found = r ∧ w = w' := by
  simp only [lockFound, bind_ok_iff, awaitRequests_ok_iff, readableRow?_ok_iff]
  cases found <;> simp [IsFree, and_assoc]

theorem lock_ok_iff {id : Int} {r : Option Request} :
    lock id w = (.ok r, w') ↔
      w.isOpen = true ∧ (∀ r ∈ w.tables.request? id, IsFree w r) ∧
      w.tables.request? id = r ∧ w = w' := by
  simp only [lock, bind_ok_iff, query_ok_iff, lockFound_ok_iff]
  constructor
  · rintro ⟨_, _, ⟨ho, rfl, rfl⟩, hr, rfl, rfl⟩
    exact ⟨ho, hr, rfl, rfl⟩
  · rintro ⟨ho, hr, rfl, rfl⟩
    exact ⟨_, w, ⟨ho, rfl, rfl⟩, hr, rfl, rfl⟩

theorem lockOwned_ok_iff {id user : Int} {r : Option Request} :
    lockOwned id user w = (.ok r, w') ↔
      w.isOpen = true ∧ (∀ r ∈ (w.tables.request? id).filter (·.userId == user), IsFree w r) ∧
      (w.tables.request? id).filter (·.userId == user) = r ∧ w = w' := by
  simp only [lockOwned, bind_ok_iff, query_ok_iff, lockFound_ok_iff]
  constructor
  · rintro ⟨_, _, ⟨ho, rfl, rfl⟩, hr, rfl, rfl⟩
    exact ⟨ho, hr, rfl, rfl⟩
  · rintro ⟨ho, hr, rfl, rfl⟩
    exact ⟨_, w, ⟨ho, rfl, rfl⟩, hr, rfl, rfl⟩

/-- The rows that are chosen are free. -/
def AreFree (w : World) (chosen : Request → Bool) : Prop :=
  ∀ r ∈ w.tables.requests, chosen r = true → r.id ∉ w.heldRequests

theorem updateRows_ok_iff {chosen : Tables → Request → Bool} {edit : Request → Request} {n : Nat} :
    updateRows chosen edit w = (.ok n, w') ↔
      AreFree w (chosen w.tables) ∧ (w.tables.requests.filter (chosen w.tables)).length = n ∧
      w.withTables (w.tables.editRequests w.now (chosen w.tables) edit) = w' := by
  simp only [updateRows, bind_ok_iff, world_ok_iff, awaitRequests_ok_iff, changeTables_ok_iff,
    pure_ok_iff, List.forall_mem_map, List.mem_filter]
  constructor
  · rintro ⟨_, _, ⟨rfl, rfl⟩, _, _, ⟨hfree, rfl⟩, _, _, rfl, rfl, rfl⟩
    exact ⟨fun r hr hc => hfree r ⟨hr, hc⟩, rfl, rfl⟩
  · rintro ⟨hfree, rfl, rfl⟩
    exact ⟨w, w, ⟨rfl, rfl⟩, (), w, ⟨fun r hr => hfree r hr.1 hr.2, rfl⟩, (), _, rfl, rfl, rfl⟩

theorem setStatus_ok_iff {id : Int} {status : RequestStatus} {u : Unit} :
    setStatus id status w = (.ok u, w') ↔
      w.isOpen = true ∧ AreFree w (·.id == id) ∧
      w.withTables (w.tables.setStatus w.now id status) = w' := by
  simp only [setStatus, bind_ok_iff, ensureOpen_ok_iff, updateRows_ok_iff, pure_ok_iff]
  constructor
  · rintro ⟨_, _, ⟨ho, rfl⟩, _, _, ⟨hfree, -, rfl⟩, -, rfl⟩
    exact ⟨ho, hfree, rfl⟩
  · rintro ⟨ho, hfree, rfl⟩
    exact ⟨(), w, ⟨ho, rfl⟩, _, _, ⟨hfree, rfl, rfl⟩, trivial, rfl⟩

theorem publishOn_ok_iff {shift : Int} {n : Nat} :
    publishOn shift w = (.ok n, w') ↔
      w.isOpen = true ∧ AreFree w (fun r => w.tables.isBound shift r.id) ∧
      (w.tables.requestsOn shift).length = n ∧
      w.withTables (w.tables.publishOn w.now shift) = w' := by
  simp only [publishOn, bind_ok_iff, ensureOpen_ok_iff, updateRows_ok_iff]
  constructor
  · rintro ⟨_, _, ⟨ho, rfl⟩, hfree, rfl, rfl⟩
    exact ⟨ho, hfree, rfl, rfl⟩
  · rintro ⟨ho, hfree, rfl, rfl⟩
    exact ⟨(), w, ⟨ho, rfl⟩, hfree, rfl, rfl⟩

/-- The arguments that the edited columns of a request hand over. -/
def detailArguments (r : Request) : List Argument :=
  [.text r.flightNo, .date r.arrivalDate, .text r.terminal]
    ++ optionalTime r.arrivalTime ++ optionalTime r.calcPickupTime

theorem saveDetails_ok_iff {details r : Request} :
    saveDetails details w = (.ok r, w') ↔
      w.isOpen = true ∧ Storable (detailArguments details) ∧
      bagsAllowed details.checkedBags details.carryOnBags = true ∧ AreFree w (·.id == details.id) ∧
      (w.tables.editDetails w.now details).request? details.id = some r ∧ r.isReadable = true ∧
      w.withTables (w.tables.editDetails w.now details) = w' := by
  simp only [saveDetails, bind_ok_iff, checkArguments_ok_iff, ite_ok_iff, fail_ok_iff,
    updateRows_ok_iff, find?_ok_iff, Bool.not_eq_true', and_false, false_or]
  constructor
  · rintro ⟨_, _, ⟨ho, hs, rfl⟩, hb, _, _, ⟨hfree, -, rfl⟩, found, _, ⟨-, hr, hf, rfl⟩, h⟩
    rw [hf] at hr
    cases found with
    | none => simp at h
    | some r' =>
      obtain ⟨rfl, rfl⟩ := pure_ok_iff.1 h
      exact ⟨ho, hs, by simpa using hb, hfree, hf, hr, rfl⟩
  · rintro ⟨ho, hs, hb, hfree, hf, hr, rfl⟩
    refine ⟨(), w, ⟨ho, hs, rfl⟩, by simp [hb], _, _, ⟨hfree, rfl, rfl⟩, some r, _,
      ⟨ho, ?_, hf, rfl⟩, rfl⟩
    change ((w.tables.editDetails w.now details).request? details.id).all Request.isReadable = true
    rw [hf]
    exact hr

theorem flightsOn_ok_iff {date : Calendar.Date} {fs : List String} :
    flightsOn date w = (.ok fs, w') ↔
      w.isOpen = true ∧ Storable [.date date] ∧ w.tables.flightsOn date = fs ∧ w = w' := by
  simp only [flightsOn, bind_ok_iff, checkArguments_ok_iff, query_ok_iff]
  constructor
  · rintro ⟨_, _, ⟨ho, hs, rfl⟩, -, rfl, rfl⟩
    exact ⟨ho, hs, rfl, rfl⟩
  · rintro ⟨ho, hs, rfl, rfl⟩
    exact ⟨(), w, ⟨ho, hs, rfl⟩, ho, rfl, rfl⟩

/-- The arguments that a refresh hands over. -/
def refreshArguments (f : Flight.Refresh) : List Argument :=
  [.text f.flightNo, .date f.arrivalDate, .text f.terminal, .time (.ofDateTime f.arrivalTime),
    .time (.ofDateTime f.calcPickupTime)]

theorem applyRefresh_ok_iff {f : Flight.Refresh} {n : Nat} :
    applyRefresh f w = (.ok n, w') ↔
      w.isOpen = true ∧ Storable (refreshArguments f) ∧ AreFree w f.reaches ∧
      (w.tables.requests.filter f.reaches).length = n ∧
      w.withTables (w.tables.refresh w.now f) = w' := by
  simp only [applyRefresh, bind_ok_iff, checkArguments_ok_iff, updateRows_ok_iff]
  constructor
  · rintro ⟨_, _, ⟨ho, hs, rfl⟩, hfree, rfl, rfl⟩
    exact ⟨ho, hs, hfree, rfl, rfl⟩
  · rintro ⟨ho, hs, hfree, rfl, rfl⟩
    exact ⟨(), w, ⟨ho, hs, rfl⟩, hfree, rfl, rfl⟩

end Requests

/-! ### Shifts -/

namespace Shifts

theorem nextId_ok_iff {id : Int} :
    nextId w = (.ok id, w') ↔ w.issued.shifts + 1 = id ∧ w.issueShift = w' := by
  simp [nextId, bind_ok_iff, map_ok_iff, World.issueShift, and_comm]

/-- The draft that is inserted. -/
def ofNew (id driver : Int) (departure now : Calendar.WallClock) : Shift :=
  { id, driverId := driver, departureTime := departure, status := .draft, createdAt := now }

theorem insert_ok_iff {driver : Int} {departure : Calendar.WallClock} {s : Shift} :
    insert driver departure w = (.ok s, w') ↔
      w.isOpen = true ∧ Storable [.time departure] ∧ (w.tables.driver? driver).isSome = true ∧
      ofNew (w.issued.shifts + 1) driver departure w.now = s ∧ s.isReadable = true ∧
      w.issueShift.withTables (w.tables.addShift s) = w' := by
  simp only [insert, bind_ok_iff, checkArguments_ok_iff, nextId_ok_iff, ite_ok_iff, fail_ok_iff,
    world_ok_iff, changeTables_ok_iff, readableRow_ok_iff, Option.isNone_iff_eq_none, and_false,
    false_or]
  constructor
  · rintro ⟨_, _, ⟨ho, hs, rfl⟩, _, _, ⟨rfl, rfl⟩, _, _, ⟨rfl, rfl⟩, hd, _, _, rfl, hr, rfl, rfl⟩
    exact ⟨ho, hs, Option.isSome_iff_ne_none.2 hd, rfl, hr, rfl⟩
  · rintro ⟨ho, hs, hd, rfl, hr, rfl⟩
    exact ⟨(), w, ⟨ho, hs, rfl⟩, _, _, ⟨rfl, rfl⟩, _, _, ⟨rfl, rfl⟩,
      Option.isSome_iff_ne_none.1 hd, (), _, rfl, hr, rfl, rfl⟩

theorem find?_ok_iff {id : Int} {s : Option Shift} :
    find? id w = (.ok s, w') ↔
      w.isOpen = true ∧ (w.tables.shift? id).all Shift.isReadable = true ∧
      w.tables.shift? id = s ∧ w = w' := by
  simp only [find?, bind_ok_iff, query_ok_iff, readableRow?_ok_iff]
  constructor
  · rintro ⟨_, _, ⟨ho, rfl, rfl⟩, hr, rfl, rfl⟩
    exact ⟨ho, hr, rfl, rfl⟩
  · rintro ⟨ho, hr, rfl, rfl⟩
    exact ⟨_, w, ⟨ho, rfl, rfl⟩, hr, rfl, rfl⟩

/-- The driver that a patch names, if it names one, exists. -/
def DriverExists (t : Tables) (patch : ShiftPatch) : Prop :=
  ∀ d ∈ patch.driverId, (t.driver? d).isSome = true

theorem driverExists_iff (t : Tables) (patch : ShiftPatch) :
    (patch.driverId.any fun d => (t.driver? d).isNone) = false ↔ DriverExists t patch := by
  unfold DriverExists
  cases patch.driverId <;> simp [Option.isSome_iff_ne_none]

theorem update_ok_iff {id : Int} {patch : ShiftPatch} {s : Option Shift} :
    update id patch w = (.ok s, w') ↔
      w.isOpen = true ∧ Storable (optionalTime patch.departureTime) ∧
      (∀ s ∈ w.tables.shift? id, s.id ∉ w.heldShifts) ∧
      ((w.tables.shift? id = none ∧ s = none ∧ w = w') ∨
        ((w.tables.shift? id).isSome = true ∧ DriverExists w.tables patch ∧
          ((w.tables.editShift id patch.apply).shift? id).all Shift.isReadable = true ∧
          (w.tables.editShift id patch.apply).shift? id = s ∧
          w.withTables (w.tables.editShift id patch.apply) = w')) := by
  have hdriver := driverExists_iff w.tables patch
  simp only [update, bind_ok_iff, checkArguments_ok_iff, world_ok_iff, awaitShifts_found_ok_iff]
  constructor
  · rintro ⟨_, _, ⟨ho, hs, rfl⟩, _, _, ⟨rfl, rfl⟩, _, _, ⟨hfree, rfl⟩, h⟩
    refine ⟨ho, hs, hfree, ?_⟩
    cases hf : w.tables.shift? id with
    | none =>
      simp only [hf, pure_ok_iff] at h
      exact .inl ⟨rfl, h.1.symm, h.2⟩
    | some s₀ =>
      simp only [hf, bind_ok_iff, ite_ok_iff, fail_ok_iff, changeTables_ok_iff, find?_ok_iff,
        and_false, false_or, Bool.not_eq_true, hdriver] at h
      obtain ⟨hd, _, _, rfl, -, hr, rfl, rfl⟩ := h
      exact .inr ⟨rfl, hd, hr, rfl, rfl⟩
  · rintro ⟨ho, hs, hfree, h⟩
    refine ⟨(), w, ⟨ho, hs, rfl⟩, w, w, ⟨rfl, rfl⟩, (), w, ⟨hfree, rfl⟩, ?_⟩
    rcases h with ⟨hf, rfl, rfl⟩ | ⟨hf, hd, hr, rfl, rfl⟩
    · simp [hf]
    · obtain ⟨s₀, hf⟩ := Option.isSome_iff_exists.1 hf
      simp only [hf, bind_ok_iff, ite_ok_iff, fail_ok_iff, changeTables_ok_iff, find?_ok_iff,
        and_false, false_or, Bool.not_eq_true, hdriver]
      exact ⟨hd, (), _, rfl, ho, hr, rfl, rfl⟩

/-- The row is free and can be read. -/
def IsFree (w : World) (s : Shift) : Prop := s.id ∉ w.heldShifts ∧ s.isReadable = true

theorem lock_ok_iff {id : Int} {s : Option Shift} :
    lock id w = (.ok s, w') ↔
      w.isOpen = true ∧ (∀ s ∈ w.tables.shift? id, IsFree w s) ∧
      w.tables.shift? id = s ∧ w = w' := by
  simp only [lock, bind_ok_iff, query_ok_iff, awaitShifts_found_ok_iff, readableRow?_ok_iff,
    Option.all_eq_true]
  constructor
  · rintro ⟨_, _, ⟨ho, rfl, rfl⟩, _, _, ⟨hfree, rfl⟩, hr, rfl, rfl⟩
    exact ⟨ho, fun s hs => ⟨hfree s hs, hr s hs⟩, rfl, rfl⟩
  · rintro ⟨ho, h, rfl, rfl⟩
    exact ⟨_, w, ⟨ho, rfl, rfl⟩, (), w, ⟨fun s hs => (h s hs).1, rfl⟩, fun s hs => (h s hs).2,
      rfl, rfl⟩

/-- A shift with the limits of its driver's car, as it is locked. -/
def lockedOf (t : Tables) (id : Int) : Option Locked := do
  let s ← t.shift? id
  let d ← t.driver? s.driverId
  return { id := s.id, status := s.status, driverId := s.driverId, capacity := d.capacity }

theorem lockWithCapacity_ok_iff {id : Int} {l : Option Locked} :
    lockWithCapacity id w = (.ok l, w') ↔
      w.isOpen = true ∧ (∀ l ∈ lockedOf w.tables id, l.id ∉ w.heldShifts) ∧
      lockedOf w.tables id = l ∧ w = w' := by
  simp only [lockWithCapacity, bind_ok_iff, ensureOpen_ok_iff, world_ok_iff,
    awaitShifts_found_ok_iff, pure_ok_iff]
  constructor
  · rintro ⟨_, _, ⟨ho, rfl⟩, _, _, ⟨rfl, rfl⟩, _, _, ⟨hfree, rfl⟩, rfl, rfl⟩
    exact ⟨ho, hfree, rfl, rfl⟩
  · rintro ⟨ho, hfree, rfl, rfl⟩
    exact ⟨(), w, ⟨ho, rfl⟩, w, w, ⟨rfl, rfl⟩, (), w, ⟨hfree, rfl⟩, rfl, rfl⟩

theorem setStatus_ok_iff {id : Int} {status : ShiftStatus} {u : Unit} :
    setStatus id status w = (.ok u, w') ↔
      w.isOpen = true ∧ (∀ s ∈ w.tables.shift? id, s.id ∉ w.heldShifts) ∧
      w.withTables (w.tables.editShift id fun s => { s with status }) = w' := by
  simp only [setStatus, bind_ok_iff, ensureOpen_ok_iff, world_ok_iff, awaitShifts_found_ok_iff,
    changeTables_ok_iff]
  constructor
  · rintro ⟨_, _, ⟨ho, rfl⟩, _, _, ⟨rfl, rfl⟩, _, _, ⟨hfree, rfl⟩, rfl⟩
    exact ⟨ho, hfree, rfl⟩
  · rintro ⟨ho, hfree, rfl⟩
    exact ⟨(), w, ⟨ho, rfl⟩, w, w, ⟨rfl, rfl⟩, (), w, ⟨hfree, rfl⟩, rfl⟩

theorem load_ok_iff {id : Int} {l : Load} :
    load id w = (.ok l, w') ↔ w.isOpen = true ∧ w.tables.load id = l ∧ w = w' :=
  query_ok_iff

end Shifts

/-! ### Bindings and staff -/

namespace Bindings

theorem insert_ok_iff {shift request : Int} {u : Unit} :
    insert shift request w = (.ok u, w') ↔
      w.isOpen = true ∧ w.tables.bindingsOf request = [] ∧
      (w.tables.shift? shift).isSome = true ∧ (w.tables.request? request).isSome = true ∧
      w.withTables (w.tables.bind shift request) = w' := by
  -- a bound pair is in particular a binding of the request, so the second check covers the first
  have hpair : w.tables.bindingsOf request = [] → w.tables.isBound shift request = false := by
    intro h
    simp only [Tables.isBound, List.contains_eq_mem, decide_eq_false_iff_not]
    intro hmem
    have : (⟨shift, request⟩ : Binding) ∈ w.tables.bindingsOf request := by
      simp [Tables.bindingsOf, hmem]
    simp [h] at this
  simp only [insert, bind_ok_iff, ensureOpen_ok_iff, world_ok_iff, ite_ok_iff, fail_ok_iff,
    changeTables_ok_iff, and_false, false_or, Bool.or_eq_true, Option.isNone_iff_eq_none, not_or,
    Option.ne_none_iff_isSome, List.length_eq_zero_iff, not_not, ne_eq]
  constructor
  · rintro ⟨_, _, ⟨ho, rfl⟩, _, _, ⟨rfl, rfl⟩, -, hb, ⟨hs, hr⟩, rfl⟩
    exact ⟨ho, hb, hs, hr, rfl⟩
  · rintro ⟨ho, hb, hs, hr, rfl⟩
    exact ⟨(), w, ⟨ho, rfl⟩, w, w, ⟨rfl, rfl⟩, by simp [hpair hb], hb, ⟨hs, hr⟩, rfl⟩

theorem delete_ok_iff {shift request : Int} {b : Bool} :
    delete shift request w = (.ok b, w') ↔
      w.isOpen = true ∧ w.tables.isBound shift request = b ∧
      w.withTables (w.tables.unbind shift request) = w' := by
  simp only [delete, bind_ok_iff, ensureOpen_ok_iff, world_ok_iff, changeTables_ok_iff, pure_ok_iff]
  constructor
  · rintro ⟨_, _, ⟨ho, rfl⟩, _, _, ⟨rfl, rfl⟩, _, _, rfl, rfl, rfl⟩
    exact ⟨ho, rfl, rfl⟩
  · rintro ⟨ho, rfl, rfl⟩
    exact ⟨(), w, ⟨ho, rfl⟩, w, w, ⟨rfl, rfl⟩, (), _, rfl, rfl, rfl⟩

end Bindings

namespace Staffings

theorem insert_ok_iff {shift staff : Int} {b : Bool} :
    insert shift staff w = (.ok b, w') ↔
      w.isOpen = true ∧
      ((⟨shift, staff⟩ ∈ w.tables.staffings ∧ b = false ∧ w = w') ∨
        (⟨shift, staff⟩ ∉ w.tables.staffings ∧ (w.tables.shift? shift).isSome = true ∧
          (w.tables.user? staff).isSome = true ∧ b = true ∧
          w.withTables (w.tables.addStaff shift staff) = w')) := by
  simp only [insert, bind_ok_iff, ensureOpen_ok_iff, world_ok_iff, ite_ok_iff, fail_ok_iff,
    changeTables_ok_iff, pure_ok_iff, and_false, false_or, Bool.or_eq_true,
    Option.isNone_iff_eq_none, not_or, Option.ne_none_iff_isSome, List.contains_iff_mem]
  constructor
  · rintro ⟨_, _, ⟨ho, rfl⟩, _, _, ⟨rfl, rfl⟩,
      ⟨hmem, rfl, rfl⟩ | ⟨hmem, ⟨hs, hu⟩, _, _, rfl, rfl, rfl⟩⟩
    · exact ⟨ho, .inl ⟨hmem, rfl, rfl⟩⟩
    · exact ⟨ho, .inr ⟨hmem, hs, hu, rfl, rfl⟩⟩
  · rintro ⟨ho, ⟨hmem, rfl, rfl⟩ | ⟨hmem, hs, hu, rfl, rfl⟩⟩
    · exact ⟨(), w, ⟨ho, rfl⟩, w, w, ⟨rfl, rfl⟩, .inl ⟨hmem, rfl, rfl⟩⟩
    · exact ⟨(), w, ⟨ho, rfl⟩, w, w, ⟨rfl, rfl⟩, .inr ⟨hmem, ⟨hs, hu⟩, (), _, rfl, rfl, rfl⟩⟩

theorem delete_ok_iff {shift staff : Int} {b : Bool} :
    delete shift staff w = (.ok b, w') ↔
      w.isOpen = true ∧ w.tables.staffings.contains ⟨shift, staff⟩ = b ∧
      w.withTables (w.tables.removeStaff shift staff) = w' := by
  simp only [delete, bind_ok_iff, ensureOpen_ok_iff, world_ok_iff, changeTables_ok_iff, pure_ok_iff]
  constructor
  · rintro ⟨_, _, ⟨ho, rfl⟩, _, _, ⟨rfl, rfl⟩, _, _, rfl, rfl, rfl⟩
    exact ⟨ho, rfl, rfl⟩
  · rintro ⟨ho, rfl, rfl⟩
    exact ⟨(), w, ⟨ho, rfl⟩, w, w, ⟨rfl, rfl⟩, (), _, rfl, rfl, rfl⟩

end Staffings

/-! ### Drivers and users -/

namespace Drivers

theorem nextId_ok_iff {id : Int} :
    nextId w = (.ok id, w') ↔ w.issued.drivers + 1 = id ∧ w.issueDriver = w' := by
  simp [nextId, bind_ok_iff, map_ok_iff, World.issueDriver, and_comm]

theorem insert_ok_iff {input : DriverInput} {d : Driver} :
    insert input w = (.ok d, w') ↔
      w.isOpen = true ∧ Storable [.text input.name, .text input.carModel] ∧
      isAllowed input.capacity = true ∧ ofInput (w.issued.drivers + 1) input = d ∧
      w.issueDriver.withTables (w.tables.addDriver d) = w' := by
  simp only [insert, bind_ok_iff, checkArguments_ok_iff, nextId_ok_iff, ite_ok_iff, fail_ok_iff,
    changeTables_ok_iff, pure_ok_iff, and_false, or_false]
  constructor
  · rintro ⟨_, _, ⟨ho, hs, rfl⟩, _, _, ⟨rfl, rfl⟩, hc, _, _, rfl, rfl, rfl⟩
    exact ⟨ho, hs, hc, rfl, rfl⟩
  · rintro ⟨ho, hs, hc, rfl, rfl⟩
    exact ⟨(), w, ⟨ho, hs, rfl⟩, _, _, ⟨rfl, rfl⟩, hc, (), _, rfl, rfl, rfl⟩

theorem find?_ok_iff {id : Int} {d : Option Driver} :
    find? id w = (.ok d, w') ↔ w.isOpen = true ∧ w.tables.driver? id = d ∧ w = w' :=
  query_ok_iff

theorem update_ok_iff {id : Int} {input : DriverInput} {d : Option Driver} :
    update id input w = (.ok d, w') ↔
      w.isOpen = true ∧ Storable [.text input.name, .text input.carModel] ∧
      ((w.tables.driver? id = none ∧ d = none ∧ w = w') ∨
        ((w.tables.driver? id).isSome = true ∧ isAllowed input.capacity = true ∧
          d = some (ofInput id input) ∧ w.withTables (w.tables.setDriver id input) = w')) := by
  simp only [update, bind_ok_iff, checkArguments_ok_iff, find?_ok_iff]
  constructor
  · rintro ⟨_, _, ⟨ho, hs, rfl⟩, found, _, ⟨-, hf, rfl⟩, h⟩
    cases found with
    | none =>
      obtain ⟨rfl, rfl⟩ := pure_ok_iff.1 h
      exact ⟨ho, hs, .inl ⟨hf, rfl, rfl⟩⟩
    | some d₀ =>
      simp only [ite_ok_iff, bind_ok_iff, changeTables_ok_iff, pure_ok_iff, fail_ok_iff, and_false,
        or_false] at h
      obtain ⟨hc, _, _, rfl, rfl, rfl⟩ := h
      exact ⟨ho, hs, .inr ⟨by simp [hf], hc, rfl, rfl⟩⟩
  · rintro ⟨ho, hs, ⟨hf, rfl, rfl⟩ | ⟨hf, hc, rfl, rfl⟩⟩
    · exact ⟨(), w, ⟨ho, hs, rfl⟩, none, w, ⟨ho, hf, rfl⟩, rfl⟩
    · obtain ⟨d₀, hf⟩ := Option.isSome_iff_exists.1 hf
      refine ⟨(), w, ⟨ho, hs, rfl⟩, some d₀, w, ⟨ho, hf, rfl⟩, ?_⟩
      simp only [ite_ok_iff, bind_ok_iff, changeTables_ok_iff, pure_ok_iff, fail_ok_iff, and_false,
        or_false]
      exact ⟨hc, (), _, rfl, trivial, rfl⟩

end Drivers

namespace Users

theorem find?_ok_iff {id : Int} {u : Option User} :
    find? id w = (.ok u, w') ↔ w.isOpen = true ∧ w.tables.user? id = u ∧ w = w' :=
  query_ok_iff

theorem setRole_ok_iff {id : Int} {role : Role} {u : Option User} :
    setRole id role w = (.ok u, w') ↔
      w.isOpen = true ∧ (w.tables.setRole w.now id role).user? id = u ∧
      w.withTables (w.tables.setRole w.now id role) = w' := by
  simp only [setRole, bind_ok_iff, ensureOpen_ok_iff, world_ok_iff, changeTables_ok_iff,
    find?_ok_iff]
  constructor
  · rintro ⟨_, _, ⟨ho, rfl⟩, _, _, ⟨rfl, rfl⟩, _, _, rfl, -, rfl, rfl⟩
    exact ⟨ho, rfl, rfl⟩
  · rintro ⟨ho, rfl, rfl⟩
    exact ⟨(), w, ⟨ho, rfl⟩, w, w, ⟨rfl, rfl⟩, (), _, rfl, ho, rfl, rfl⟩

end Users

end ShuttleDesk
