/-
  ShuttleDesk/Proofs/Desk/LockTimeout.lean
  ========================================
  What the lock timeout does to the calls, and what it does not.

  Every number of 64 bits without a sign is taken as a lock timeout, but the store takes
  no more than 31 bits.  Nothing notices this when the settings are read.  With a timeout
  that the store does not take, a call that sets it fails before anything else, even where
  nobody holds a row, and the other calls go on.  That is the only way for a timeout to
  show without held rows (`lockTimeout_unobservable_iff`).

  Where rows are held, the timeout is to keep calls from waiting for ever.  It does so for
  the calls that lock rows, which set it before they wait.  The edit of a shift and the
  pass over the flights change rows as well, and nothing sets the timeout for the
  statements that wait in them (`heldRow_bounded_iff`).  That they do not set it shows when
  it is one that the store would refuse: they come to the held row all the same.
-/
import ShuttleDesk.Proofs.Desk.HeldRows
import ShuttleDesk.Proofs.Text.Numerals
import ShuttleDesk.Settings

namespace ShuttleDesk

open Procedure Statement

/-! ### Settings -/

namespace Settings

/-- There are settings with this lock timeout that can be used. -/
def OffersLockTimeout (millis : Int) : Prop :=
  ∃ env settings, load env = .ok settings ∧ settings.lockTimeoutMs = millis

variable {env : String → Option String} {name word : String} {b : Numeral.Bounds} {default n : Int}

theorem number_of_none (h : env name = none) : number env name word b default = .ok default := by
  simp only [number, h]

theorem contains_of_number (hdefault : b.contains default = true) (hleast : b.least ≤ 0)
    (hgreatest : 0 ≤ b.greatest) (h : number env name word b default = .ok n) :
    b.contains n = true := by
  unfold number at h
  cases hs : env name with
  | none =>
    rw [hs] at h
    cases h
    exact hdefault
  | some s =>
    simp only [hs] at h
    cases hread : Numeral.parse b s.toList with
    | error flaw =>
      rw [hread] at h
      cases h
    | ok k =>
      rw [hread] at h
      cases h
      exact Numeral.contains_of_parse hleast hgreatest hread

/-- Nothing is set but a secret and the lock timeout. -/
def withLockTimeout (millis : Nat) (name : String) : Option String :=
  if name = "LOCK_TIMEOUT_MS" then some (String.ofList (Numeral.digits millis))
  else if name = "JWT_SECRET" then some "secret" else none

/-- Every number of 64 bits is taken as a lock timeout. -/
theorem offersLockTimeout_iff {millis : Int} :
    OffersLockTimeout millis ↔ Numeral.Bounds.unsigned64.contains millis = true := by
  constructor
  · rintro ⟨env, settings, h, rfl⟩
    obtain ⟨_, -, h⟩ := except_bind_ok_iff.1 h
    obtain ⟨_, -, h⟩ := except_bind_ok_iff.1 h
    obtain ⟨_, -, h⟩ := except_bind_ok_iff.1 h
    obtain ⟨lockTimeoutMs, hread, h⟩ := except_bind_ok_iff.1 h
    obtain ⟨_, -, h⟩ := except_bind_ok_iff.1 h
    obtain ⟨_, -, h⟩ := except_bind_ok_iff.1 h
    obtain ⟨_, -, h⟩ := except_bind_ok_iff.1 h
    cases h
    exact contains_of_number (by decide) (by decide) (by decide) hread
  · intro h
    simp only [Numeral.Bounds.contains, Bool.and_eq_true, decide_eq_true_eq] at h
    obtain ⟨n, rfl⟩ := Int.eq_ofNat_of_zero_le h.1
    have hread : number (withLockTimeout n) "LOCK_TIMEOUT_MS" "u64" .unsigned64 5000 = .ok n := by
      simp only [number, withLockTimeout, if_true, String.toList_ofList, Numeral.parse_digits h.2]
    refine ⟨withLockTimeout n, _, except_bind_ok_iff.2 ⟨3000, number_of_none ?_,
      except_bind_ok_iff.2 ⟨30, number_of_none ?_, except_bind_ok_iff.2 ⟨20, number_of_none ?_,
      except_bind_ok_iff.2 ⟨n, hread, except_bind_ok_iff.2 ⟨1800, number_of_none ?_,
      except_bind_ok_iff.2 ⟨"secret", ?_, except_bind_ok_iff.2 ⟨15, number_of_none ?_, rfl⟩⟩⟩⟩⟩⟩⟩,
      rfl⟩
    all_goals simp [withLockTimeout, secret]

end Settings

/-! ### Two timeouts -/

namespace Operation

variable {α : Type} {s t : Int} {w : World} {x : Operation α}

theorem locking_congr (h : s ≤ greatestLockTimeout ↔ t ≤ greatestLockTimeout) :
    locking s x = locking t x := by
  unfold locking setLockTimeout
  simp only [h]

/-- In a store that is closed the timeout is not looked at. -/
theorem locking_run_of_closed (h : w.isOpen = false) : locking s x w = locking t x w := by
  have hset : ∀ millis, (liftM (setLockTimeout millis) : Operation Unit) w
      = (.error (.error (.ofStorage .poolClosed)), w) := by
    intro millis
    simp [lift_eq_mapError, mapError_run, setLockTimeout, ensureOpen, bind_run, h]
  simp only [locking, transaction, bind_run, hset]

end Operation

namespace Desk

open Operation

variable {s t timeout : Int} {c : Call} {w : World}

/-- Of a timeout matters only whether the store takes it. -/
theorem perform_congr (h : s ≤ greatestLockTimeout ↔ t ≤ greatestLockTimeout) (c : Call) :
    c.perform s = c.perform t := by
  have hlocking : ∀ {α : Type} {x : Operation α}, locking s x = locking t x := locking_congr h
  cases c <;>
    simp only [Call.perform, editRequest, assign, unassign, publishShift, assignStaff, removeStaff,
      hlocking]

/-- A call that does not set the timeout does not depend on it. -/
theorem perform_of_not_setsLockTimeout (h : ¬ c.SetsLockTimeout w) (s t : Int) :
    c.perform s w = c.perform t w := by
  have hlocking : w.isOpen = false → ∀ {α : Type} (f : α → Answer) (x : Operation α),
      (f <$> locking s x) w = (f <$> locking t x) w := by
    intro ho α f x
    rw [map_run, map_run, locking_run_of_closed ho]
  cases c with
  | editRequest | assign | unassign | publishShift | removeStaff =>
    refine hlocking ?_ _ _
    rw [← Bool.not_eq_true]
    exact fun ho => h ⟨ho, rfl⟩
  | assignStaff shift user =>
    have hsame : assignStaff s shift user w = assignStaff t shift user w := by
      rw [assignStaff, assignStaff, bind_run, bind_run]
      rcases hrun : existingUser user w with ⟨stop | u, v⟩
      · rfl
      · -- whoever is found may not accompany a shift
        obtain ⟨ho, hu, rfl⟩ := existingUser_ok_iff.1 hrun
        have hrole : (!u.role.isStaffLike) = true := by
          rw [Bool.not_eq_true', ← Bool.not_eq_true]
          exact fun hstaff => h ⟨ho, u, hu, hstaff⟩
        simp only [if_pos hrole]
    rw [Call.perform, Call.perform, map_run, map_run, hsame]
  | _ => rfl

/-- A timeout that the store does not take fails the call that sets it. -/
theorem perform_of_unsettable (hsets : c.SetsLockTimeout w) (h : greatestLockTimeout < timeout) :
    c.perform timeout w = (.error (.error (.database .invalidSetting)), w) := by
  have hstops : Stops (c.perform timeout) w (.error (.ofStorage .invalidSetting)) :=
    (stops_perform_iff (by decide) timeout c w).2 (.inl ⟨rfl, h, hsets⟩)
  have hanswer := stops_iff.1 hstops
  exact Prod.ext hanswer (unchanged_of_error (Call.locksRows_of_setsLockTimeout hsets) hanswer)

/-- Only a timeout that the store does not take is refused. -/
theorem not_refused_of_settable (h : timeout ≤ greatestLockTimeout) :
    (c.perform timeout w).1 ≠ .error (.error (.database .invalidSetting)) := by
  intro hanswer
  have hstops : Stops (c.perform timeout) w (.error (.ofStorage .invalidSetting)) :=
    stops_iff.2 hanswer
  rcases (stops_perform_iff (by decide) timeout c w).1 hstops with ⟨-, hbeyond, -⟩ | ⟨heq, -⟩
  · omega
  · exact absurd heq (by decide)

theorem rowHeld_iff :
    (c.perform timeout w).1 = .error (.error .rowHeld) ↔
      c.MeetsHeldRow w ∧ (c.locksRows = true → timeout ≤ greatestLockTimeout) := by
  have hkind : StorageError.lockNotAvailable ≠ .invalidSetting := by decide
  have hstops := stops_perform_iff (.inr rfl : StorageError.lockNotAvailable.IsOfLocks) timeout c w
  rw [stops_iff] at hstops
  exact hstops.trans (by simp [hkind])

theorem not_meetsHeldRow (hshifts : w.heldShifts = []) (hrequests : w.heldRequests = []) :
    ¬ c.MeetsHeldRow w := by
  cases c <;>
    simp [Call.MeetsHeldRow, World.HoldsShift, World.HoldsRequest, World.HoldsSome, hshifts,
      hrequests]

/-- Under both timeouts the call has the same answer and leaves the same tables. -/
def Call.AnswersAlike (c : Call) (w : World) (s t : Int) : Prop :=
  (c.perform s w).1 = (c.perform t w).1 ∧ (c.perform s w).2.tables = (c.perform t w).2.tables

/-- While nobody holds a row, the lock timeout does not show in what a call does, whatever can be
configured, unless the call sets the timeout.  Then two timeouts that the store takes are the same,
and one that the store does not take fails the call and changes nothing.  No call complains of a
row that it could not have. -/
theorem lockTimeout_unobservable_iff (c : Call) (w : World) (hshifts : w.heldShifts = [])
    (hrequests : w.heldRequests = []) :
    ((∀ s t, Settings.OffersLockTimeout s → Settings.OffersLockTimeout t → c.AnswersAlike w s t) ↔
      ¬ c.SetsLockTimeout w) ∧
    (∀ s t, s ≤ greatestLockTimeout → t ≤ greatestLockTimeout → c.perform s w = c.perform t w) ∧
    (c.SetsLockTimeout w → ∀ t, greatestLockTimeout < t →
      c.perform t w = (.error (.error (.database .invalidSetting)), w)) ∧
    ∀ t, (c.perform t w).1 ≠ .error (.error .rowHeld) := by
  refine ⟨⟨?_, ?_⟩, ?_, ?_, ?_⟩
  · intro halike hsets
    have hsmall : Settings.OffersLockTimeout 5000 := Settings.offersLockTimeout_iff.2 (by decide)
    have hlarge : Settings.OffersLockTimeout 2147483648 :=
      Settings.offersLockTimeout_iff.2 (by decide)
    obtain ⟨hanswer, -⟩ := halike 5000 2147483648 hsmall hlarge
    have htaken : (5000 : Int) ≤ greatestLockTimeout := by decide
    have hrefused : greatestLockTimeout < 2147483648 := by decide
    rw [perform_of_unsettable hsets hrefused] at hanswer
    exact not_refused_of_settable htaken hanswer
  · intro hnot s t _ _
    rw [Call.AnswersAlike, perform_of_not_setsLockTimeout hnot s t]
    exact ⟨rfl, rfl⟩
  · intro s t hs ht
    rw [perform_congr (iff_of_true hs ht)]
  · exact fun hsets t ht => perform_of_unsettable hsets ht
  · intro t hanswer
    exact not_meetsHeldRow hshifts hrequests (rowHeld_iff.1 hanswer).1

/-- With the default timeout a draft of the small desk is published, with a longer one that the
settings take it is not, and the shifts can still be edited. -/
theorem lockTimeout_shows_without_held_rows :
    Settings.OffersLockTimeout 5000 ∧ Settings.OffersLockTimeout 2147483648 ∧
    smallDesk.heldShifts = [] ∧ smallDesk.heldRequests = [] ∧
    ¬ (Call.publishShift 1).AnswersAlike smallDesk 5000 2147483648 := by
  have hanswers : ((Call.publishShift 1).perform 5000 smallDesk).1 ≠
      ((Call.publishShift 1).perform 2147483648 smallDesk).1 := by decide +kernel
  exact ⟨Settings.offersLockTimeout_iff.2 (by decide), Settings.offersLockTimeout_iff.2 (by decide),
    rfl, rfl, fun h => hanswers h.1⟩

/-- On the small desk nobody holds a row. -/
theorem lockTimeout_unobservable_on_smallDesk :
    smallDesk.heldShifts = [] ∧ smallDesk.heldRequests = [] ∧
    (Call.publishShift 1).perform 0 smallDesk = (Call.publishShift 1).perform 5000 smallDesk ∧
    (Call.publishShift 1).perform 2147483648 smallDesk
      = (.error (.error (.database .invalidSetting)), smallDesk) := by
  obtain ⟨-, hsame, hrefused, -⟩ :=
    lockTimeout_unobservable_iff (.publishShift 1) smallDesk rfl rfl
  exact ⟨rfl, rfl, hsame 0 5000 (by decide) (by decide), hrefused ⟨rfl, rfl⟩ _ (by decide)⟩

/-! ### Setting the timeout before a wait -/

theorem rowHeld_isOfLocks : DeskError.rowHeld.IsOfLocks := ⟨.lockNotAvailable, rfl, .inr rfl⟩

end Desk

namespace Operation

/-- The operation, which takes the lock timeout as a parameter, sets it before every wait: it is put
together from parts that no held row stops and from transactions that first of all set the timeout.
Then every statement that has to wait stands in a transaction where the timeout was set before. -/
inductive WaitsUnderTimeout : {α : Type} → (Int → Operation α) → Prop
  | avoids {α : Type} {x : Int → Operation α}
      (h : ∀ timeout, Avoids (· = DeskError.rowHeld) (x timeout)) : WaitsUnderTimeout x
  | locking {α : Type} (x : Int → Operation α) :
      WaitsUnderTimeout fun timeout => locking timeout (x timeout)
  | bind {α β : Type} {x : Int → Operation α} {k : Int → α → Operation β}
      (hx : WaitsUnderTimeout x) (hk : ∀ a, WaitsUnderTimeout fun timeout => k timeout a) :
      WaitsUnderTimeout fun timeout => x timeout >>= k timeout

namespace WaitsUnderTimeout

variable {α β : Type} {x : Int → Operation α} {timeout : Int}

theorem map (f : α → β) (hx : WaitsUnderTimeout x) :
    WaitsUnderTimeout fun timeout => f <$> x timeout := by
  simp only [← bind_pure_comp]
  exact .bind hx fun a => .avoids fun _ => .pure _

/-- With a timeout that the store refuses nothing waits: the refusal comes before. -/
theorem avoids_rowHeld (hx : WaitsUnderTimeout x) (hbeyond : greatestLockTimeout < timeout) :
    Avoids (· = DeskError.rowHeld) (x timeout) := by
  induction hx with
  | avoids h => exact h timeout
  | bind _ _ ihx ihk => exact .bind ihx ihk
  | locking x =>
    rintro w _ rfl hstops
    have hlocks : StorageError.lockNotAvailable.IsOfLocks := .inr rfl
    rcases stops_bind_iff.1 (stops_transaction_iff.1 hstops) with hset | ⟨_, _, hset, -⟩
    · obtain ⟨-, -, herror⟩ := (setLockTimeout_stops_iff hlocks).1
        (faults_lift_ofStorage_iff.1 (faults_ofStorage_iff.2 hset))
      exact absurd herror (by decide)
    · obtain ⟨-, hsettable, -⟩ := setLockTimeout_ok_iff.1 (lift_ok_iff.1 hset)
      omega

end WaitsUnderTimeout

end Operation

namespace Desk

open Operation

variable {timeout : Int} {c : Call} {w : World}

theorem waitsUnderTimeout_of_locksRows (h : c.locksRows = true) :
    WaitsUnderTimeout fun timeout => c.perform timeout := by
  cases c with
  | editRequest | assign | unassign | publishShift | removeStaff => exact .map _ (.locking _)
  | assignStaff shift user =>
    refine .map _ (.bind (.avoids fun _ w e he => ?_) fun u => ?_)
    · exact avoids_existingUser user w e (he ▸ rowHeld_isOfLocks)
    · by_cases hstaff : (!u.role.isStaffLike) = true
      · simp only [if_pos hstaff]
        exact .avoids fun _ => .fail (by simp [DeskError.rowHeld])
      · simp only [if_neg hstaff]
        exact .locking _
  | _ => cases h

/-! ### Held rows -/

theorem waits_updateShift (shift : Int) (change : ShiftChange) :
    Waits (w.HoldsShift shift) w (updateShift shift change) := by
  have hsave : Waits (w.HoldsShift shift) w (do
      orFail (.shiftNotFound shift) (← liftM (Shifts.update shift change.patch)) :
        Operation Shift) :=
    .bind (waits_lift (Shifts.waits_update _ id)) fun _ _ _ _ => .orFail _ _
  refine .ite (.fail _) ?_
  cases change.driverId with
  | none => exact hsave
  | some d =>
    refine .look (keeps_existingDriver d) ?_ fun _ _ => hsave
    exact .look (.lift (Drivers.keeps_find? d)) (waits_lift (waits_query _)) fun _ _ => .orFail _ _

theorem waits_applyAll (fs : List Flight.Refresh) : Waits True w (applyAll fs) := by
  induction fs generalizing w with
  | nil => exact .pure 0
  | cons f fs ih =>
    refine .bind (waits_lift (Requests.waits_applyRefresh fun _ _ _ _ => trivial)) fun _ _ _ _ => ?_
    exact .bind ih fun _ _ _ _ => .pure _

theorem waits_syncDate (network : Flight.Network) (base : Option String) (date : Calendar.Date) :
    Waits True w (syncDate network base date) := by
  unfold syncDate
  cases Flight.baseOf base with
  | none => exact .pure _
  | some b =>
    refine .look (.lift (Requests.keeps_flightsOn date)) (waits_lift ?_) fun flights _ => ?_
    · exact .look (keeps_checkArguments _) (waits_checkArguments _) fun _ _ => waits_query _
    refine .ite .overflow (.bind (.ite (.pure 0) ?_) fun _ _ _ _ => .pure _)
    exact .transaction (waits_applyAll _)

/-- A call that could not have a row leaves the world as it is. -/
theorem unchanged_of_rowHeld (hstop : (c.perform timeout w).1 = .error (.error .rowHeld)) :
    (c.perform timeout w).2 = w := by
  have htables : (c.perform timeout w).2.tables = w.tables := by
    rcases perform_error (Prod.ext hstop rfl) with hkept | ⟨hoverflow, -⟩
    · exact hkept.tables
    · cases hoverflow
  have haround : (c.perform timeout w).2.withTables w.tables = w := by
    cases c with
    | editRequest | assign | unassign | publishShift | assignStaff | removeStaff =>
      exact (waits_perform rfl).around
    | updateShift shift change => exact ((waits_updateShift shift change).map _).around
    | syncFlights network base date => exact ((waits_syncDate network base date).map _).around
    | _ => exact ((rowHeld_iff.1 hstop).1.2).elim
  rwa [← htables, World.withTables_self] at haround

/-- A call that meets a held row fails for it, and the timeout matters only if it is set. -/
theorem perform_of_meetsHeldRow (hmeets : c.MeetsHeldRow w)
    (hsettable : c.locksRows = true → timeout ≤ greatestLockTimeout) :
    c.perform timeout w = (.error (.error .rowHeld), w) := by
  have hstop := rowHeld_iff.2 ⟨hmeets, hsettable⟩
  exact Prod.ext hstop (unchanged_of_rowHeld hstop)

/-- The call bounds how long it waits for a row: the lock timeout is set, in the same transaction,
before every statement that may have to wait, and with every timeout that the store takes the call
gives up, changes nothing, and says that it may be tried again. -/
structure Call.BoundsItsWait (w : World) (c : Call) : Prop where
  setBefore : WaitsUnderTimeout fun timeout => c.perform timeout
  givesUp : ∀ timeout, 0 < timeout → timeout ≤ greatestLockTimeout →
    ∃ e, c.perform timeout w = (.error (.error e), w) ∧ e.code = "RETRYABLE"

theorem not_waitsUnderTimeout (hmeets : c.MeetsHeldRow w) (hlocks : c.locksRows = false) :
    ¬ WaitsUnderTimeout fun timeout => c.perform timeout := by
  intro hbefore
  have hbeyond : greatestLockTimeout < greatestLockTimeout + 1 := by decide
  have hstop : (c.perform (greatestLockTimeout + 1) w).1 = .error (.error .rowHeld) := by
    rw [perform_of_meetsHeldRow hmeets (by simp [hlocks])]
  exact hbefore.avoids_rowHeld hbeyond w _ rfl (stops_iff.2 hstop)

theorem boundsItsWait_iff (hmeets : c.MeetsHeldRow w) :
    c.BoundsItsWait w ↔ c.locksRows = true := by
  constructor
  · intro hbounds
    by_contra hlocks
    exact not_waitsUnderTimeout hmeets (Bool.not_eq_true _ ▸ hlocks) hbounds.setBefore
  · intro hlocks
    exact {
      setBefore := waitsUnderTimeout_of_locksRows hlocks
      givesUp := fun timeout _ hsettable =>
        ⟨.rowHeld, perform_of_meetsHeldRow hmeets fun _ => hsettable, rfl⟩ }

/-- A call fails for a row exactly if it meets one that is held, unless it sets the lock timeout and
the store refuses that.  Of the calls that meet a held row, exactly the calls that lock rows bound
how long they wait.  The others are the edit of a shift and the pass over the flights: they wait
with no timeout set, and so come to the row whatever the timeout is, even one that the store would
refuse. -/
theorem heldRow_bounded_iff (c : Call) (w : World) :
    (∀ timeout, (c.perform timeout w).1 = .error (.error .rowHeld) ↔
      c.MeetsHeldRow w ∧ (c.locksRows = true → timeout ≤ greatestLockTimeout)) ∧
    (c.MeetsHeldRow w →
      (c.BoundsItsWait w ↔ c.locksRows = true) ∧
      (c.locksRows = false →
        ((∃ shift change, c = .updateShift shift change) ∨
          ∃ network base date, c = .syncFlights network base date) ∧
        (¬ WaitsUnderTimeout fun timeout => c.perform timeout) ∧
        ∀ timeout, c.perform timeout w = (.error (.error .rowHeld), w))) := by
  refine ⟨fun timeout => rowHeld_iff, fun hmeets => ⟨boundsItsWait_iff hmeets, fun hlocks => ?_⟩⟩
  refine ⟨?_, not_waitsUnderTimeout hmeets hlocks, fun timeout => ?_⟩
  · cases c with
    | updateShift shift change => exact .inl ⟨shift, change, rfl⟩
    | syncFlights network base date => exact .inr ⟨network, base, date, rfl⟩
    | editRequest | assign | unassign | publishShift | assignStaff | removeStaff => cases hlocks
    | _ => exact hmeets.2.elim
  · exact perform_of_meetsHeldRow hmeets (by simp [hlocks])

/-- A shift that is held is not published, and the publication does not wait for it for ever. -/
theorem heldRow_bounded_of_publication :
    let w := { smallDesk with heldShifts := [1] }
    (Call.publishShift 1).MeetsHeldRow w ∧ (Call.publishShift 1).BoundsItsWait w := by
  intro w
  have hmeets : (Call.publishShift 1).MeetsHeldRow w := ⟨rfl, _, rfl, .inl (by decide)⟩
  exact ⟨hmeets, (((heldRow_bounded_iff (.publishShift 1) w).2 hmeets).1).2 rfl⟩

/-- A draft and a request are held, and the store would refuse the timeout.  The publication of the
draft comes to that first; an edit of the draft and a pass over the flight come to the held rows. -/
theorem heldRows_waited_for_without_timeout :
    let w := { worldAfter 0 [.undisturbed smallRequest] smallDesk with
      heldShifts := [1], heldRequests := [1] }
    let edit := Call.updateShift 1 ⟨some 1, none⟩
    let pass := Call.syncFlights (twoReplies (arrivingAt "2026-03-01 12:00:00") .nothing)
      (some "http://flights/") arrivalDay
    ((Call.publishShift 1).perform 2147483648 w).1
        = .error (.error (.database .invalidSetting)) ∧
      (edit.perform 2147483648 w).1 = .error (.error .rowHeld) ∧
      (pass.perform 2147483648 w).1 = .error (.error .rowHeld) ∧
      ¬ edit.BoundsItsWait w ∧ ¬ pass.BoundsItsWait w := by
  intro w edit pass
  have hedit : (edit.perform 2147483648 w).1 = .error (.error .rowHeld) := by decide +kernel
  have hpass : (pass.perform 2147483648 w).1 = .error (.error .rowHeld) := by decide +kernel
  refine ⟨by decide +kernel, hedit, hpass, fun hbounds => ?_, fun hbounds => ?_⟩
  · cases (boundsItsWait_iff (rowHeld_iff.1 hedit).1).1 hbounds
  · cases (boundsItsWait_iff (rowHeld_iff.1 hpass).1).1 hbounds

end Desk

end ShuttleDesk
