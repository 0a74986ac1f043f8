/-
  ShuttleDesk/Proofs/Desk/Sound.lean
  ==================================
  The constraints of the database hold in every world that calls lead to, and ids are
  never given out twice: every id in the tables is at most the last one given out.
-/
import ShuttleDesk.Proofs.Desk.Effect

namespace ShuttleDesk

/-- The constraints are respected, and every id in the tables has been given out. -/
structure World.Sound (w : World) : Prop where
  lawful : w.tables.Lawful
  within : w.tables.Within w.issued

namespace Tables

variable {t : Tables} {i j : Issued} {now : Calendar.WallClock}

/-- No row has come or gone, as far as ids tell. -/
structure SameIds (t t' : Tables) : Prop where
  users : t'.userIds = t.userIds
  drivers : t'.driverIds = t.driverIds
  requests : t'.requestIds = t.requestIds
  shifts : t'.shiftIds = t.shiftIds

theorem Within.of_sameIds {t' : Tables} (h : t.Within i) (hids : t.SameIds t') (hle : i.Le j) :
    t'.Within j where
  users id hid := Int.le_trans (h.users id (hids.users ▸ hid)) hle.users
  drivers id hid := Int.le_trans (h.drivers id (hids.drivers ▸ hid)) hle.drivers
  requests id hid := Int.le_trans (h.requests id (hids.requests ▸ hid)) hle.requests
  shifts id hid := Int.le_trans (h.shifts id (hids.shifts ▸ hid)) hle.shifts

theorem sameIds_editRequests {chosen : Request → Bool} {edit : Request → Request}
    (hid : ∀ r, (edit r).id = r.id) : t.SameIds (t.editRequests now chosen edit) :=
  ⟨rfl, rfl, requestIds_editRequests hid, rfl⟩

theorem sameIds_editShift {id : Int} {edit : Shift → Shift} (hid : ∀ s, (edit s).id = s.id) :
    t.SameIds (t.editShift id edit) :=
  ⟨rfl, rfl, rfl, shiftIds_editShift hid⟩

theorem SameIds.trans {u v : Tables} (h : t.SameIds u) (k : u.SameIds v) : t.SameIds v where
  users := k.users.trans h.users
  drivers := k.drivers.trans h.drivers
  requests := k.requests.trans h.requests
  shifts := k.shifts.trans h.shifts

theorem sameIds_setStatus {id : Int} {status : RequestStatus} :
    t.SameIds (t.setStatus now id status) :=
  sameIds_editRequests fun _ => rfl

theorem sameIds_bind {shift request : Int} : t.SameIds (t.bind shift request) :=
  ⟨rfl, rfl, rfl, rfl⟩

theorem sameIds_unbind {shift request : Int} : t.SameIds (t.unbind shift request) :=
  ⟨rfl, rfl, rfl, rfl⟩

theorem sameIds_publish {id : Int} : t.SameIds ((t.publishShift id).publishOn now id) := by
  have hshift : t.SameIds (t.publishShift id) := sameIds_editShift fun _ => rfl
  have hrequests : (t.publishShift id).SameIds ((t.publishShift id).publishOn now id) :=
    sameIds_editRequests fun _ => rfl
  exact hshift.trans hrequests

theorem sameIds_refreshAll (fs : List Flight.Refresh) : t.SameIds (t.refreshAll now fs) := by
  refine refreshAll_induction ?_ ⟨rfl, rfl, rfl, rfl⟩
  intro u f _ h
  have hone : u.SameIds (u.refresh now f) := sameIds_editRequests fun _ => rfl
  exact h.trans hone

end Tables

namespace World.Sound

variable {w : World}

/-- Rows may change if ids stay and the constraints are respected. -/
theorem withTables {t : Tables} (h : w.Sound) (hids : w.tables.SameIds t) (ht : t.Lawful) :
    (w.withTables t).Sound :=
  ⟨ht, h.within.of_sameIds hids (.refl _)⟩

theorem unwritten {w' : World} (h : w.Sound) (hkept : w.Unwritten w') : w'.Sound where
  lawful := hkept.tables ▸ h.lawful
  within := by
    rw [hkept.tables]
    exact h.within.of_sameIds ⟨rfl, rfl, rfl, rfl⟩ hkept.issued

/-- An id that has just been given out is the last one. -/
theorem le_of_mem_append {ids : List Int} {last : Int} (h : ∀ id ∈ ids, id ≤ last) :
    ∀ id ∈ ids ++ [last + 1], id ≤ last + 1 := by
  refine forall_mem_append_one ?_ (Int.le_refl _)
  intro id hid
  exact Int.le_trans (h id hid) (by omega)

theorem addRequest {r : Request} (h : w.Sound) (hid : r.id = w.issued.requests + 1)
    (hrider : (w.tables.user? r.userId).isSome = true)
    (hbags : Requests.bagsAllowed r.checkedBags r.carryOnBags = true) :
    (w.issueRequest.withTables (w.tables.addRequest r)).Sound where
  lawful := h.lawful.addRequest h.within.requests (by omega) (Tables.user?_isSome_iff.1 hrider) hbags
  within := by
    refine { h.within with requests := ?_ }
    have hids : (w.tables.addRequest r).requestIds = w.tables.requestIds ++ [r.id] := by
      simp [Tables.requestIds, Tables.addRequest]
    rw [World.withTables_tables, hids, hid]
    exact le_of_mem_append h.within.requests

theorem addShift {s : Shift} (h : w.Sound) (hid : s.id = w.issued.shifts + 1)
    (hdriver : (w.tables.driver? s.driverId).isSome = true) :
    (w.issueShift.withTables (w.tables.addShift s)).Sound where
  lawful := h.lawful.addShift h.within.shifts (by omega) (Tables.driver?_isSome_iff.1 hdriver)
  within := by
    refine { h.within with shifts := ?_ }
    have hids : (w.tables.addShift s).shiftIds = w.tables.shiftIds ++ [s.id] := by
      simp [Tables.shiftIds, Tables.addShift]
    rw [World.withTables_tables, hids, hid]
    exact le_of_mem_append h.within.shifts

theorem addDriver {d : Driver} (h : w.Sound) (hid : d.id = w.issued.drivers + 1)
    (hlimits : Drivers.isAllowed d.capacity = true) :
    (w.issueDriver.withTables (w.tables.addDriver d)).Sound where
  lawful := h.lawful.addDriver h.within.drivers (by omega) hlimits
  within := by
    refine { h.within with drivers := ?_ }
    have hids : (w.tables.addDriver d).driverIds = w.tables.driverIds ++ [d.id] := by
      simp [Tables.driverIds, Tables.addDriver]
    rw [World.withTables_tables, hids, hid]
    exact le_of_mem_append h.within.drivers

theorem patchShift {id : Int} {patch : ShiftPatch} (h : w.Sound)
    (hdriver : Shifts.DriverExists w.tables patch) :
    (w.withTables (w.tables.editShift id patch.apply)).Sound :=
  h.withTables (Tables.sameIds_editShift fun _ => rfl) (h.lawful.patchShift hdriver)

theorem setRole {user : Int} {role : Role} (h : w.Sound) :
    (w.withTables (w.tables.setRole w.now user role)).Sound :=
  h.withTables ⟨Tables.userIds_setRole, rfl, rfl, rfl⟩ h.lawful.setRole

end World.Sound

namespace Desk

/-- A call keeps the constraints, whatever comes of it. -/
theorem Effect.sound {w w' : World} {c : Call} {o : Outcome} (h : Effect w c o w')
    (hw : w.Sound) : w'.Sound := by
  cases h with
  | stopped kept => exact hw.unwritten kept
  | draftLeft left => exact hw.addShift rfl left.driver
  | editLeft named left => exact hw.patchShift left.driver
  | viewed view => exact hw
  | requestMade alone valid dateRead arrivalRead timed storable bags known row =>
    subst row
    exact hw.addRequest rfl known bags
  | detailsSaved owned pending valid changeRead timed storable bags saved =>
    exact hw.withTables (Tables.sameIds_editRequests fun _ => rfl) (hw.lawful.editDetails bags)
  | bound found row? pending free shift? =>
    have hrow := Tables.request?_isSome_iff.1 (Option.isSome_of_eq_some row?)
    have hbind := hw.lawful.bind (Tables.bindingsOf_eq_nil_iff.1 free)
      (Tables.shift?_isSome_iff.1 shift?) hrow
    exact hw.withTables (Tables.sameIds_bind.trans Tables.sameIds_setStatus) (hbind.setStatus _)
  | unbound shift? row? unpublished bound =>
    exact hw.withTables (Tables.sameIds_unbind.trans Tables.sameIds_setStatus)
      (hw.lawful.unbind.setStatus _)
  | shiftMade known row readable =>
    subst row
    exact hw.addShift rfl known
  | shiftEdited named known saved readable => exact hw.patchShift known
  | published shift? =>
    exact hw.withTables Tables.sameIds_publish hw.lawful.publishShift.publishOn
  | staffAdded user? staffLike shift? new =>
    have huser := Tables.user?_isSome_iff.1 (Option.isSome_of_eq_some user?)
    exact hw.withTables ⟨rfl, rfl, rfl, rfl⟩
      (hw.lawful.addStaff new (Tables.shift?_isSome_iff.1 shift?) huser)
  | staffKept user? staffLike old => exact hw
  | staffRemoved shift? => exact hw.withTables ⟨rfl, rfl, rfl, rfl⟩ hw.lawful.removeStaff
  | driverMade valid limits => exact hw.addDriver rfl limits
  | driverEdited valid known limits =>
    exact hw.withTables ⟨rfl, Tables.driverIds_setDriver, rfl, rfl⟩ (hw.lawful.setDriver limits)
  | madeStaff noAdmin saved => exact hw.setRole
  | madeStudent noAdmin saved => exact hw.setRole
  | syncSkipped unset => exact hw
  | synced set inCalendar =>
    exact hw.withTables (Tables.sameIds_refreshAll _) (hw.lawful.refreshAll _)

/-! ### Runs -/

/-- Where runs begin: the constraints are respected, and there are no requests and nothing
is bound.  Users, drivers and shifts are any. -/
structure IsFresh (w : World) : Prop where
  sound : w.Sound
  noRequests : w.tables.requests = []
  noBindings : w.tables.bindings = []

/-- What every call keeps holds after any calls. -/
theorem worldAfter_induction {timeout : Int} {p : World → Prop}
    (hmoment : ∀ w m, p w → p (w.atMoment m))
    (hstep : ∀ {w w' : World} {c : Call} {o : Outcome}, Effect w c o w' → p w → p w')
    (cs : List TimedCall) {w : World} (h : p w) : p (worldAfter timeout cs w) := by
  induction cs generalizing w with
  | nil => exact h
  | cons c cs ih =>
    apply ih
    exact hstep (c.make_effect timeout w) (hmoment w c.moment h)

/-- What every call keeps of the world and the entries so far holds after any calls. -/
theorem journal_induction {timeout : Int} {p : World → List Entry → Prop}
    (hmoment : ∀ w es m, p w es → p (w.atMoment m) es)
    (hstep : ∀ {w : World} {es : List Entry} {e : Entry}, Effect w e.call e.outcome e.after →
      p w es → p e.after (es ++ [e]))
    (cs : List TimedCall) {w : World} {es : List Entry} (h : p w es) :
    p (worldAfter timeout cs w) (es ++ journal timeout cs w) := by
  induction cs generalizing w es with
  | nil =>
    rw [journal_nil, List.append_nil]
    exact h
  | cons c cs ih =>
    have hone : p (c.make timeout w).after (es ++ [c.make timeout w]) :=
      hstep (c.make_effect timeout w) (hmoment w es c.moment h)
    have hrest := ih hone
    rw [List.append_assoc] at hrest
    exact hrest

theorem sound_worldAfter (timeout : Int) (cs : List TimedCall) {w : World} (h : w.Sound) :
    (worldAfter timeout cs w).Sound :=
  worldAfter_induction (fun _ _ hw => ⟨hw.lawful, hw.within⟩) (fun he hw => he.sound hw) cs h

/-! ### A small desk -/

/-- One rider, one member of staff, one driver and two drafts. -/
def smallDesk : World where
  tables := { Tables.empty with
    users := [⟨1, "rider", "Ann", none, .student, ⟨0⟩, ⟨0⟩⟩,
      ⟨2, "staff", "Bob", none, .staff, ⟨0⟩, ⟨0⟩⟩]
    drivers := [⟨1, "Dan", "Van", ⟨2, 2, 2⟩⟩]
    shifts := [⟨1, 1, ⟨0⟩, .draft, ⟨0⟩⟩, ⟨2, 1, ⟨0⟩, .draft, ⟨0⟩⟩] }
  issued := ⟨2, 1, 0, 2⟩
  now := ⟨0⟩
  heldShifts := []
  heldRequests := []
  isOpen := true

theorem isFresh_smallDesk : IsFresh smallDesk where
  sound := {
    lawful := by constructor <;> decide
    within := by constructor <;> decide }
  noRequests := rfl
  noBindings := rfl

/-- A call while no other session holds a row. -/
def TimedCall.undisturbed (call : Call) : TimedCall := ⟨⟨⟨0⟩, [], [], true⟩, call⟩

/-- The day on which the riders of the small desk arrive. -/
def arrivalDay : Calendar.Date := ⟨2026, 3, 1, by decide⟩

/-- The rider of the small desk makes a request. -/
def smallRequest : Call :=
  .createRequest 1 ⟨"CA1", "2026-03-01", "T5", 1, 2, "2026-03-01 10:00:00"⟩

end Desk
end ShuttleDesk
