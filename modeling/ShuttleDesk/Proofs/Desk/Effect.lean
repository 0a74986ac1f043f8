/-
  ShuttleDesk/Proofs/Desk/Effect.lean
  ===================================
  What a call can do, in one case analysis.  A call that stops has changed no row, or
  has left a shift behind that departs past the calendar.  A call that answers makes
  the one change that belongs to it, and everything that had to hold for it is kept
  with the case.  What holds of every run is proved by cases over these effects.
-/
import ShuttleDesk.Desk.Journal
import ShuttleDesk.Proofs.Desk.Atomic

namespace ShuttleDesk.Desk

open Procedure

/-- The call only looks. -/
def Call.isView : Call → Bool
  | .listRequests _ | .dashboard | .pendingRequests | .listDrivers | .listUsers => true
  | _ => false

/-- How a call ends and which world it leaves. -/
inductive Effect (w : World) : Call → Outcome → World → Prop where
  | stopped {c : Call} {s : Stop DeskError} {w' : World} (kept : w.Unwritten w') :
      Effect w c (.error s) w'
  | draftLeft {driver : Int} {departure : Calendar.DateTime}
      (left : Shifts.InsertsUnreadable w driver (.ofDateTime departure)) :
      Effect w (.createShift driver departure) (.error .timeOverflow)
        (Shifts.afterInsert w driver (.ofDateTime departure))
  | editLeft {shift : Int} {change : ShiftChange}
      (named : change.patch.isEmpty = false)
      (left : Shifts.UpdatesUnreadable w shift change.patch) :
      Effect w (.updateShift shift change) (.error .timeOverflow)
        (Shifts.afterUpdate w shift change.patch)
  | viewed {c : Call} {a : Answer} (view : c.isView = true) : Effect w c (.ok a) w
  | requestMade {rider : Int} {input : RequestInput} {date : Calendar.Date}
      {arrival : Calendar.DateTime} {values : NewRequest} {r : Request}
      (alone : w.tables.requestsOf rider = [])
      (valid : input.validate = .ok ())
      (dateRead : readDate "arrival_date" input.arrivalDate = .ok date)
      (arrivalRead : readDateTime "expected_arrival_time" input.expectedArrivalTime = .ok arrival)
      (timed : newRequest? input date arrival = some values)
      (storable : Statement.Storable (Requests.arguments values))
      (bags : Requests.bagsAllowed values.checkedBags values.carryOnBags = true)
      (known : (w.tables.user? rider).isSome = true)
      (row : Requests.ofNew (w.issued.requests + 1) rider values w.now = r) :
      Effect w (.createRequest rider input) (.ok (.request r))
        (w.issueRequest.withTables (w.tables.addRequest r))
  | detailsSaved {rider request : Int} {edit : RequestEdit} {change : RequestChange}
      {row after r : Request}
      (owned : (w.tables.request? request).filter (·.userId == rider) = some row)
      (pending : row.status = .pending)
      (valid : edit.validate = .ok ())
      (changeRead : RequestChange.ofEdit edit = .ok change)
      (timed : change.after? row = some after)
      (storable : Statement.Storable (Requests.detailArguments after))
      (bags : Requests.bagsAllowed after.checkedBags after.carryOnBags = true)
      (saved : (w.tables.editDetails w.now after).request? after.id = some r) :
      Effect w (.editRequest rider request edit) (.ok (.request r))
        (w.withTables (w.tables.editDetails w.now after))
  | bound {shift request : Int} {locked : Shifts.Locked} {row : Request}
      (found : Shifts.lockedOf w.tables shift = some locked)
      (row? : w.tables.request? request = some row)
      (pending : row.status = .pending)
      (free : w.tables.bindingsOf request = [])
      (shift? : (w.tables.shift? shift).isSome = true) :
      Effect w (.assign shift request)
        (.ok (.assigned
          (((w.tables.load shift).withRider row.checkedBags row.carryOnBags).warning
            locked.capacity)))
        (w.withTables ((w.tables.bind shift request).setStatus w.now request .assigned))
  | unbound {shift request : Int} {s : Shift} {row : Request}
      (shift? : w.tables.shift? shift = some s)
      (row? : w.tables.request? request = some row)
      (unpublished : row.status ≠ .published)
      (bound : w.tables.isBound shift request = true) :
      Effect w (.unassign shift request) (.ok .done)
        (w.withTables ((w.tables.unbind shift request).setStatus w.now request .pending))
  | shiftMade {driver : Int} {departure : Calendar.DateTime} {s : Shift}
      (known : (w.tables.driver? driver).isSome = true)
      (row : Shifts.ofNew (w.issued.shifts + 1) driver (.ofDateTime departure) w.now = s)
      (readable : s.isReadable = true) :
      Effect w (.createShift driver departure) (.ok (.shift s))
        (w.issueShift.withTables (w.tables.addShift s))
  | shiftEdited {shift : Int} {change : ShiftChange} {s : Shift}
      (named : change.patch.isEmpty = false)
      (known : Shifts.DriverExists w.tables change.patch)
      (saved : (w.tables.editShift shift change.patch.apply).shift? shift = some s)
      (readable : s.isReadable = true) :
      Effect w (.updateShift shift change) (.ok (.shift s))
        (w.withTables (w.tables.editShift shift change.patch.apply))
  | published {shift : Int} {s : Shift} (shift? : w.tables.shift? shift = some s) :
      Effect w (.publishShift shift)
        (.ok (.published shift (w.tables.requestsOn shift).length))
        (w.withTables ((w.tables.publishShift shift).publishOn w.now shift))
  | staffAdded {shift user : Int} {u : User}
      (user? : w.tables.user? user = some u)
      (staffLike : u.role.isStaffLike = true)
      (shift? : (w.tables.shift? shift).isSome = true)
      (new : ⟨shift, user⟩ ∉ w.tables.staffings) :
      Effect w (.assignStaff shift user) (.ok .done)
        (w.withTables (w.tables.addStaff shift user))
  | staffKept {shift user : Int} {u : User}
      (user? : w.tables.user? user = some u)
      (staffLike : u.role.isStaffLike = true)
      (old : ⟨shift, user⟩ ∈ w.tables.staffings) :
      Effect w (.assignStaff shift user) (.ok .done) w
  | staffRemoved {shift user : Int} {s : Shift} (shift? : w.tables.shift? shift = some s) :
      Effect w (.removeStaff shift user) (.ok .done)
        (w.withTables (w.tables.removeStaff shift user))
  | driverMade {input : DriverInput}
      (valid : checkProfile input = .ok ())
      (limits : Drivers.isAllowed input.capacity = true) :
      Effect w (.createDriver input)
        (.ok (.driver (Drivers.ofInput (w.issued.drivers + 1) input)))
        (w.issueDriver.withTables
          (w.tables.addDriver (Drivers.ofInput (w.issued.drivers + 1) input)))
  | driverEdited {driver : Int} {input : DriverInput}
      (valid : checkProfile input = .ok ())
      (known : (w.tables.driver? driver).isSome = true)
      (limits : Drivers.isAllowed input.capacity = true) :
      Effect w (.updateDriver driver input) (.ok (.driver (Drivers.ofInput driver input)))
        (w.withTables (w.tables.setDriver driver input))
  | madeStaff {user : Int} {u : User}
      (noAdmin : ∃ v, w.tables.user? user = some v ∧ v.role ≠ .admin)
      (saved : (w.tables.setRole w.now user .staff).user? user = some u) :
      Effect w (.setStaff user) (.ok (.user u))
        (w.withTables (w.tables.setRole w.now user .staff))
  | madeStudent {user : Int} {u : User}
      (noAdmin : ∃ v, w.tables.user? user = some v ∧ v.role ≠ .admin)
      (saved : (w.tables.setRole w.now user .student).user? user = some u) :
      Effect w (.unsetStaff user) (.ok (.user u))
        (w.withTables (w.tables.setRole w.now user .student))
  | syncSkipped {network : Flight.Network} {base : Option String} {date : Calendar.Date}
      (unset : Flight.baseOf base = none) :
      Effect w (.syncFlights network base date) (.ok (.synced .skip)) w
  | synced {network : Flight.Network} {base : Option String} {date : Calendar.Date} {b : String}
      (set : Flight.baseOf base = some b)
      (inCalendar : (lookups network b date w.tables).any isPastCalendar = false) :
      Effect w (.syncFlights network base date)
        (.ok (.synced {
          skipped := false
          flightsChecked := (w.tables.flightsOn date).length
          flightsFailed := ((lookups network b date w.tables).filter isFailed).length
          requestsUpdated :=
            reached w.tables w.now (refreshesOf (lookups network b date w.tables)) }))
        (w.withTables
          (w.tables.refreshAll w.now (refreshesOf (lookups network b date w.tables))))

/-- A call that answers has one of the effects. -/
theorem effect_of_ok {timeout : Int} {c : Call} {w w' : World} {a : Answer}
    (hc : c.perform timeout w = (.ok a, w')) : Effect w c (.ok a) w' := by
  -- a view leaves the world alone
  have hview : ∀ {α : Type} {x : Operation α} {f : α → Answer}, Keeps id x →
      (f <$> x) w = (.ok a, w') → w' = w := by
    intro α x f hx h
    obtain ⟨_, hr, -⟩ := map_ok_iff.1 h
    simpa [hr] using hx w
  cases c with
  | createRequest rider input =>
    obtain ⟨r, h, rfl⟩ := map_ok_iff.1 hc
    obtain ⟨halone, hvalid, date, arrival, values, hdate, harrival, htimed, h⟩ :=
      createRequest_ok_iff.1 h
    obtain ⟨-, hstorable, hbags, hknown, hrow, -, rfl⟩ := Requests.insert_ok_iff.1 h
    exact .requestMade halone hvalid hdate harrival htimed hstorable hbags hknown hrow
  | listRequests rider =>
    rw [hview (keeps_listRequests rider) hc]
    exact .viewed rfl
  | editRequest rider request edit =>
    obtain ⟨r, h, rfl⟩ := map_ok_iff.1 hc
    obtain ⟨-, row, change, after, howned, -, hpending, hvalid, hchange, htimed, h⟩ :=
      editRequest_ok_iff.1 h
    obtain ⟨-, hstorable, hbags, -, hsaved, -, rfl⟩ := Requests.saveDetails_ok_iff.1 h
    exact .detailsSaved howned hpending hvalid hchange htimed hstorable hbags hsaved
  | assign shift request =>
    obtain ⟨warning, h, rfl⟩ := map_ok_iff.1 hc
    obtain ⟨-, -, locked, row, hfound, -, hrow, -, hpending, hfree, hshift, -, rfl, rfl⟩ :=
      assign_ok_iff.1 h
    exact .bound hfound hrow hpending hfree hshift
  | unassign shift request =>
    obtain ⟨_, h, rfl⟩ := map_ok_iff.1 hc
    obtain ⟨-, -, s, row, hshift, -, hrow, -, hunpublished, hbound, -, rfl⟩ :=
      unassign_ok_iff.1 h
    exact .unbound hshift hrow hunpublished hbound
  | createShift driver departure =>
    obtain ⟨s, h, rfl⟩ := map_ok_iff.1 hc
    obtain ⟨-, -, hknown, hrow, hreadable, rfl⟩ :=
      Shifts.insert_ok_iff.1 (createShift_ok_iff.1 h)
    exact .shiftMade hknown hrow hreadable
  | updateShift shift change =>
    obtain ⟨s, h, rfl⟩ := map_ok_iff.1 hc
    obtain ⟨hnamed, h⟩ := updateShift_ok_iff.1 h
    obtain ⟨-, -, -, ⟨-, hnone, -⟩ | ⟨-, hknown, hreadable, hsaved, rfl⟩⟩ :=
      Shifts.update_ok_iff.1 h
    · cases hnone
    · rw [hsaved] at hreadable
      exact .shiftEdited hnamed hknown hsaved (by simpa using hreadable)
  | publishShift shift =>
    obtain ⟨n, h, rfl⟩ := map_ok_iff.1 hc
    obtain ⟨-, -, s, hshift, -, -, rfl, rfl⟩ := publishShift_ok_iff.1 h
    exact .published hshift
  | dashboard =>
    rw [hview keeps_dashboard hc]
    exact .viewed rfl
  | pendingRequests =>
    rw [hview keeps_pendingRequests hc]
    exact .viewed rfl
  | assignStaff shift user =>
    obtain ⟨_, h, rfl⟩ := map_ok_iff.1 hc
    obtain ⟨-, u, s, added, huser, hrole, hshift, -, h⟩ := assignStaff_ok_iff.1 h
    obtain ⟨-, ⟨hold, -, rfl⟩ | ⟨hnew, -, -, -, rfl⟩⟩ := Staffings.insert_ok_iff.1 h
    · exact .staffKept huser hrole hold
    · exact .staffAdded huser hrole (by simp [hshift]) hnew
  | removeStaff shift user =>
    obtain ⟨_, h, rfl⟩ := map_ok_iff.1 hc
    obtain ⟨-, -, s, hshift, -, rfl⟩ := removeStaff_ok_iff.1 h
    exact .staffRemoved hshift
  | listDrivers =>
    rw [hview keeps_listDrivers hc]
    exact .viewed rfl
  | createDriver input =>
    obtain ⟨d, h, rfl⟩ := map_ok_iff.1 hc
    obtain ⟨hvalid, h⟩ := createDriver_ok_iff.1 h
    obtain ⟨-, -, hlimits, rfl, rfl⟩ := Drivers.insert_ok_iff.1 h
    exact .driverMade hvalid hlimits
  | updateDriver driver input =>
    obtain ⟨d, h, rfl⟩ := map_ok_iff.1 hc
    obtain ⟨hvalid, h⟩ := updateDriver_ok_iff.1 h
    obtain ⟨-, -, ⟨-, hnone, -⟩ | ⟨hknown, hlimits, hd, rfl⟩⟩ := Drivers.update_ok_iff.1 h
    · cases hnone
    · cases hd
      exact .driverEdited hvalid hknown hlimits
  | listUsers =>
    rw [hview keeps_listUsers hc]
    exact .viewed rfl
  | setStaff user =>
    obtain ⟨u, h, rfl⟩ := map_ok_iff.1 hc
    obtain ⟨-, hrole, hsaved, rfl⟩ := changeRole_ok_iff.1 h
    exact .madeStaff hrole hsaved
  | unsetStaff user =>
    obtain ⟨u, h, rfl⟩ := map_ok_iff.1 hc
    obtain ⟨-, hrole, hsaved, rfl⟩ := changeRole_ok_iff.1 h
    exact .madeStudent hrole hsaved
  | syncFlights network base date =>
    obtain ⟨r, h, rfl⟩ := map_ok_iff.1 hc
    rcases syncDate_ok_iff.1 h with ⟨hunset, rfl, rfl⟩ | ⟨b, hset, -, -, hin, n, hwrite, rfl⟩
    · exact .syncSkipped hunset
    · obtain ⟨-, -, rfl, rfl⟩ := writeRefreshes_ok_iff.1 hwrite
      exact .synced hset hin

/-- A call that leaves a shift behind has one of the effects. -/
theorem effect_of_strands {c : Call} {w w' : World} (h : c.Strands w w') :
    Effect w c (.error .timeOverflow) w' := by
  cases c with
  | createShift driver departure =>
    obtain ⟨hleft, rfl⟩ := h
    exact .draftLeft hleft
  | updateShift shift change =>
    obtain ⟨hnamed, hleft, rfl⟩ := h
    exact .editLeft hnamed hleft
  | _ => exact h.elim

/-- Every call has one of the effects. -/
theorem perform_effect (timeout : Int) (c : Call) (w : World) :
    Effect w c (c.perform timeout w).1 (c.perform timeout w).2 := by
  rcases h : c.perform timeout w with ⟨s | a, w'⟩
  · rcases perform_error h with hkept | ⟨rfl, hleft⟩
    · exact .stopped hkept
    · exact effect_of_strands hleft
  · exact effect_of_ok h

theorem TimedCall.make_effect (timeout : Int) (c : TimedCall) (w : World) :
    Effect (w.atMoment c.moment) c.call (c.make timeout w).outcome (c.make timeout w).after :=
  perform_effect timeout c.call (w.atMoment c.moment)

end ShuttleDesk.Desk
