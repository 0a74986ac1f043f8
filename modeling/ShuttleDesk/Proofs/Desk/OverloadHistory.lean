/-
  ShuttleDesk/Proofs/Desk/OverloadHistory.lean
  ============================================
  No car is overloaded in silence.  As long as no staff come to a shift and its limits
  stay, only an assignment can add to what it carries: whatever else is bound to the
  shift was bound before, with the same bags.  So a car over its limits was under them
  up to one assignment, and that assignment has warned.

  The limits of a shift are those of its driver.  An edit that gives the shift to another
  driver changes them, and it can do so although it fails: the edit of a departure past
  the calendar stays, while the call stops.  That is the one way into an overload of
  which nothing was said.
-/
import Mathlib.Algebra.Order.BigOperators.Group.List
import Mathlib.Data.List.Flatten
import ShuttleDesk.Proofs.Desk.LoadHistory

namespace ShuttleDesk

/-- No total is greater. -/
structure Totals.Le (a b : Totals) : Prop where
  seats : a.seats ≤ b.seats
  checkedBags : a.checkedBags ≤ b.checkedBags
  carryOnBags : a.carryOnBags ≤ b.carryOnBags

theorem Totals.Le.refl (a : Totals) : a.Le a :=
  ⟨Int.le_refl _, Int.le_refl _, Int.le_refl _⟩

theorem Totals.Le.trans {a b c : Totals} (h : a.Le b) (k : b.Le c) : a.Le c where
  seats := Int.le_trans h.seats k.seats
  checkedBags := Int.le_trans h.checkedBags k.checkedBags
  carryOnBags := Int.le_trans h.carryOnBags k.carryOnBags

theorem Totals.Le.warning {a b : Totals} {limits : Capacity} (h : a.Le b)
    (ha : a.warning limits = some .capacityOverload) :
    b.warning limits = some .capacityOverload := by
  rw [warning_eq_some_iff] at ha ⊢
  obtain ⟨hseats, hchecked, hcarryOn⟩ := h
  omega

namespace Tables

variable {t t' : Tables} {shift : Int}

/-! ### Limits -/

/-- The limits of the car of a shift's driver. -/
def limitsOf (t : Tables) (shift : Int) : Option Capacity :=
  (t.shift? shift).bind fun s => (t.driver? s.driverId).map (·.capacity)

/-- What is bound to the shift passes a limit of its driver's car. -/
def Overloaded (t : Tables) (shift : Int) : Prop :=
  ∃ s d, t.shift? shift = some s ∧ t.driver? s.driverId = some d ∧
    (d.capacity.maxSeats < (t.load shift).boundRequests + (t.load shift).staff ∨
      d.capacity.maxChecked < (t.load shift).checkedBags ∨
      d.capacity.maxCarryOn < (t.load shift).carryOnBags)

theorem overloaded_iff : t.Overloaded shift ↔ ∃ limits, t.limitsOf shift = some limits ∧
    (t.load shift).totals.warning limits = some .capacityOverload := by
  simp only [Totals.warning_eq_some_iff, limitsOf, Option.bind_eq_some_iff, Option.map_eq_some_iff]
  constructor
  · rintro ⟨s, d, hs, hd, hover⟩
    exact ⟨_, ⟨s, hs, d, hd, rfl⟩, hover⟩
  · rintro ⟨_, ⟨s, hs, d, hd, rfl⟩, hover⟩
    exact ⟨s, d, hs, hd, hover⟩

/-- More on the same car is an overload as well. -/
theorem Overloaded.of_le (h : t'.Overloaded shift)
    (hle : (t'.load shift).totals.Le (t.load shift).totals)
    (hlimits : t'.limitsOf shift = t.limitsOf shift) : t.Overloaded shift := by
  rw [overloaded_iff] at h ⊢
  obtain ⟨limits, hl, hover⟩ := h
  exact ⟨limits, hlimits ▸ hl, hle.warning hover⟩

/-! ### Limits of a shift that is there -/

theorem limitsOf_congr {row row' : Shift} (hrow : t.shift? shift = some row)
    (hrow' : t'.shift? shift = some row') (hid : row'.driverId = row.driverId)
    (hdriver : t'.driver? row.driverId = t.driver? row.driverId) :
    t'.limitsOf shift = t.limitsOf shift := by
  rw [limitsOf, limitsOf, hrow, hrow', Option.bind_some, Option.bind_some, hid, hdriver]

theorem limitsOf_addShift {s row : Shift} (hrow : t.shift? shift = some row) :
    (t.addShift s).limitsOf shift = t.limitsOf shift := by
  have hfound : (t.addShift s).shift? shift = some row := by
    rw [shift?, addShift, List.find?_append, ← shift?, hrow]
    rfl
  exact limitsOf_congr hrow hfound rfl rfl

/-- An edit that leaves the driver of the shift leaves its limits. -/
theorem limitsOf_editShift {s : Int} {edit : Shift → Shift} {row : Shift}
    (hid : ∀ s, (edit s).id = s.id) (hrow : t.shift? shift = some row)
    (hdriver : s = shift → (edit row).driverId = row.driverId) :
    (t.editShift s edit).limitsOf shift = t.limitsOf shift := by
  refine limitsOf_congr hrow (by rw [shift?_editShift hid, hrow, Option.map_some]) ?_ rfl
  split
  case isTrue hs => exact hdriver ((beq_iff_eq.1 hs).symm.trans (mem_of_shift? hrow).2)
  case isFalse => rfl

theorem driver?_addDriver {d : Driver} {id : Int}
    (h : (t.driver? id).isSome = true) : (t.addDriver d).driver? id = t.driver? id := by
  rw [driver?, addDriver, List.find?_append, ← driver?, Option.or_of_isSome h]

theorem driver?_setDriver_of_ne {driver id : Int} {input : DriverInput}
    (h : id ≠ driver) : (t.setDriver driver input).driver? id = t.driver? id := by
  have hid : ((fun d : Driver => d.id == id) ∘ fun d : Driver =>
      if d.id == driver then Drivers.ofInput driver input else d) = fun d => d.id == id := by
    funext d
    rw [Function.comp_apply]
    split
    case isTrue hd => rw [Drivers.ofInput, beq_iff_eq.1 hd]
    case isFalse => rfl
  rw [driver?, setDriver, updateWhere, List.find?_map, hid, ← driver?]
  cases hd : t.driver? id with
  | none => rfl
  | some d =>
    have hne : (d.id == driver) = false := by
      rw [(mem_of_driver? hd).2, beq_eq_false_iff_ne]
      exact h
    rw [Option.map_some, hne]
    rfl

theorem limitsOf_of_lockedOf {locked : Shifts.Locked}
    (h : Shifts.lockedOf t shift = some locked) : t.limitsOf shift = some locked.capacity := by
  simp only [Shifts.lockedOf, Option.bind_eq_bind, Option.pure_def, Option.bind_eq_some_iff,
    Option.some.injEq] at h
  obtain ⟨s, hs, d, hd, rfl⟩ := h
  rw [limitsOf, hs, Option.bind_some, hd, Option.map_some]

/-! ### Smaller loads -/

theorem total_le_of_sublist {count : Request → Int} {rs ss : List Request}
    (h : (rs.map count).Sublist (ss.map count)) (hcount : ∀ r ∈ ss, 0 ≤ count r) :
    total count rs ≤ total count ss := by
  have hsum : ∀ rs, total count rs = (rs.map count).sum := by
    intro rs
    induction rs with
    | nil => rfl
    | cons r rs ih => rw [List.map_cons, List.sum_cons, ← ih, total, List.foldr_cons, ← total]
  rw [hsum, hsum]
  apply h.sum_le_sum
  intro n hn
  obtain ⟨r, hr, rfl⟩ := List.mem_map.1 hn
  exact hcount r hr

/-- Less is bound, with the same bags. -/
theorem load_le (h : t.Lawful) (h' : t'.Lawful)
    (hbindings : (t'.bindingsOn shift).Sublist (t.bindingsOn shift))
    (hstaffings : (t'.staffings.filter (·.shiftId == shift)).Sublist
      (t.staffings.filter (·.shiftId == shift)))
    (hbags : ∀ b ∈ t'.bindingsOn shift,
      (t'.request? b.requestId).map Request.bags = (t.request? b.requestId).map Request.bags) :
    (t'.load shift).totals.Le (t.load shift).totals := by
  have hrows : ((t'.boundRows shift).map Request.bags).Sublist
      ((t.boundRows shift).map Request.bags) := by
    rw [map_bags_boundRows h, map_bags_boundRows h']
    have hsame : (t'.bindingsOn shift).flatMap
          (fun b => ((t'.request? b.requestId).map Request.bags).toList)
        = (t'.bindingsOn shift).flatMap
          fun b => ((t.request? b.requestId).map Request.bags).toList := by
      apply List.flatMap_congr
      intro b hb
      rw [hbags b hb]
    rw [hsame]
    exact hbindings.flatMap _
  have hcounts : ∀ r ∈ t.boundRows shift, 0 ≤ r.checkedBags ∧ 0 ≤ r.carryOnBags := by
    intro r hr
    exact Requests.bagsAllowed_iff.1 (h.bags r (mem_boundRows.1 hr).1)
  have hchecked := hrows.map Prod.fst
  have hcarryOn := hrows.map Prod.snd
  rw [List.map_map, List.map_map] at hchecked hcarryOn
  constructor
  case seats =>
    have hriders := hbindings.length_le
    have hstaff := hstaffings.length_le
    simp only [Load.totals, load]
    omega
  case checkedBags => exact total_le_of_sublist hchecked fun r hr => (hcounts r hr).1
  case carryOnBags => exact total_le_of_sublist hcarryOn fun r hr => (hcounts r hr).2

theorem load_eq_zero (hbindings : t.bindingsOn shift = [])
    (hstaffings : t.staffings.filter (·.shiftId == shift) = []) :
    t.load shift = ⟨0, 0, 0, 0⟩ := by
  simp [load, boundRows, hbindings, hstaffings, total]

/-- A shift that is not there carries nothing. -/
theorem load_of_shift?_eq_none (h : t.Lawful) (hnone : t.shift? shift = none) :
    t.load shift = ⟨0, 0, 0, 0⟩ := by
  have hid : shift ∉ t.shiftIds := by
    rw [← shift?_isSome_iff, hnone]
    exact Bool.false_ne_true
  have hbindings : t.bindingsOn shift = [] := by
    rw [bindingsOn, List.filter_eq_nil_iff]
    intro b hb hshift
    exact hid (beq_iff_eq.1 hshift ▸ (h.bindings b hb).1)
  have hstaffings : t.staffings.filter (·.shiftId == shift) = [] := by
    rw [List.filter_eq_nil_iff]
    intro b hb hshift
    exact hid (beq_iff_eq.1 hshift ▸ (h.staffings b hb).1)
  exact load_eq_zero hbindings hstaffings

/-- No car is too small for nothing. -/
theorem not_overloaded_of_le_zero (h : t.Lawful)
    (hzero : (t.load shift).totals.Le ⟨0, 0, 0⟩) : ¬ t.Overloaded shift := by
  rintro ⟨s, d, -, hd, hover⟩
  have hlimits := h.limits d (mem_of_driver? hd).1
  simp only [Drivers.isAllowed, Bool.and_eq_true, decide_eq_true_eq] at hlimits
  obtain ⟨hseats, hchecked, hcarryOn⟩ := hzero
  simp only [Load.totals] at hseats hchecked hcarryOn
  omega

end Tables

namespace Desk

open Tables

variable {w w' : World} {c : Call} {o : Outcome} {shift : Int}

/-! ### One call -/

/-- The call binds a request to the shift, with a warning. -/
def Warns (shift : Int) (c : Call) (o : Outcome) : Prop :=
  ∃ request, c = .assign shift request ∧ o = .ok (.assigned (some .capacityOverload))

/-- What the call is for adds staff to the shift, gives it to another driver, or edits its
driver.  Nothing of that can be done before the shift is there. -/
def Call.Tightens (t : Tables) (shift : Int) : Call → Prop
  | .assignStaff s _ => s = shift
  | .updateShift s change => s = shift ∧
      ∃ row d, t.shift? shift = some row ∧ change.driverId = some d ∧ d ≠ row.driverId
  | .updateDriver d _ => ∃ row, t.shift? shift = some row ∧ row.driverId = d
  | _ => False

/-- The call is an edit of the shift that leaves the calendar; the shift is left to another
driver all the same. -/
structure LeavesDriver (t : Tables) (shift : Int) (c : Call) (o : Outcome) (t' : Tables) :
    Prop where
  edit : ∃ change, c = .updateShift shift change
  stopped : o = .error .timeOverflow
  changed : ∃ row row', t.shift? shift = some row ∧ t'.shift? shift = some row' ∧
    row'.driverId ≠ row.driverId

theorem Effect.bindingsOn_sublist (h : Effect w c o w')
    (hc : ∀ request, ¬ (c = .assign shift request ∧ o.isOk = true)) :
    (w'.tables.bindingsOn shift).Sublist (w.tables.bindingsOn shift) := by
  cases h with
  | stopped kept => rw [kept.tables]
  | @bound s request =>
    have hs : s ≠ shift := by
      rintro rfl
      exact hc request ⟨rfl, rfl⟩
    have hsame : (w.tables.bind s request).bindingsOn shift = w.tables.bindingsOn shift := by
      simp [bindingsOn, Tables.bind, hs]
    exact hsame ▸ List.Sublist.refl _
  | unbound => exact List.filter_sublist.filter _
  | synced => rw [World.withTables_tables, bindingsOn, bindings_refreshAll, ← bindingsOn]
  | _ => exact List.Sublist.refl _

theorem Effect.staffings_sublist (h : Effect w c o w')
    (hc : ∀ user, ¬ (c = .assignStaff shift user ∧ o.isOk = true)) :
    (w'.tables.staffings.filter (·.shiftId == shift)).Sublist
      (w.tables.staffings.filter (·.shiftId == shift)) := by
  cases h with
  | stopped kept => rw [kept.tables]
  | @staffAdded s user =>
    have hs : s ≠ shift := by
      rintro rfl
      exact hc user ⟨rfl, rfl⟩
    have hsame : (w.tables.addStaff s user).staffings.filter (·.shiftId == shift)
        = w.tables.staffings.filter (·.shiftId == shift) := by
      simp [addStaff, hs]
    exact hsame ▸ List.Sublist.refl _
  | staffRemoved => exact List.filter_sublist.filter _
  | synced => rw [World.withTables_tables, refreshAll_eq]
  | _ => exact List.Sublist.refl _

/-- Only what binds a request or staff to a shift adds to its load. -/
theorem Effect.load_le (h : Effect w c o w') (hw : w.Sound) (ht : w.tables.Settled)
    (hassign : ∀ request, ¬ (c = .assign shift request ∧ o.isOk = true))
    (hstaff : ∀ user, ¬ (c = .assignStaff shift user ∧ o.isOk = true)) :
    (w'.tables.load shift).totals.Le (w.tables.load shift).totals := by
  have hbindings := h.bindingsOn_sublist hassign
  refine Tables.load_le hw.lawful (h.sound hw).lawful hbindings (h.staffings_sublist hstaff) ?_
  intro b hb
  -- what is bound was bound before
  exact h.bags_of_bound hw ht (List.mem_filter.1 (hbindings.subset hb)).1

/-- A change of a shift leaves the limits, or it is one of this shift and names another driver. -/
theorem limitsOf_change {t : Tables} {row : Shift} (hrow : t.shift? shift = some row) (s : Int)
    (change : ShiftChange) :
    (t.editShift s change.patch.apply).limitsOf shift = t.limitsOf shift ∨
      s = shift ∧ ∃ d, change.driverId = some d ∧ d ≠ row.driverId := by
  by_cases hother : s = shift ∧ ∃ d, change.driverId = some d ∧ d ≠ row.driverId
  · exact .inr hother
  · left
    refine limitsOf_editShift (fun _ => rfl) hrow fun hs => ?_
    change change.driverId.getD row.driverId = row.driverId
    cases hd : change.driverId with
    | none => rfl
    | some d =>
      by_contra hne
      exact hother ⟨hs, d, hd, hne⟩

/-- The limits of a shift stay, unless a call is there to change them. -/
theorem Effect.limitsOf_eq (h : Effect w c o w') (hw : w.Sound) {row : Shift}
    (hrow : w.tables.shift? shift = some row) :
    w'.tables.limitsOf shift = w.tables.limitsOf shift ∨
      (o.isOk = true ∧ c.Tightens w.tables shift) ∨
      LeavesDriver w.tables shift c o w'.tables := by
  cases h with
  | stopped kept => exact .inl (by rw [kept.tables])
  | draftLeft => exact .inl (limitsOf_addShift hrow)
  | @editLeft s change =>
    rcases limitsOf_change hrow s change with hsame | ⟨rfl, d, hd, hne⟩
    · exact .inl hsame
    · have hid : ∀ s, (change.patch.apply s).id = s.id := fun _ => rfl
      have hfound : (w.tables.editShift s change.patch.apply).shift? s
          = some (change.patch.apply row) :=
        shift?_editShift_self hid hrow
      have hdriver : (change.patch.apply row).driverId = d := by
        simp [ShiftPatch.apply, ShiftChange.patch, hd]
      exact .inr (.inr ⟨⟨change, rfl⟩, rfl, row, _, hrow, hfound, hdriver ▸ hne⟩)
  | shiftMade => exact .inl (limitsOf_addShift hrow)
  | @shiftEdited s change =>
    rcases limitsOf_change hrow s change with hsame | ⟨rfl, d, hd, hne⟩
    · exact .inl hsame
    · exact .inr (.inl ⟨rfl, rfl, row, d, hrow, hd, hne⟩)
  | published => exact .inl (limitsOf_editShift (fun _ => rfl) hrow fun _ => rfl)
  | driverMade =>
    have hknown := driver?_isSome_iff.2 (hw.lawful.driven row (mem_of_shift? hrow).1)
    exact .inl (limitsOf_congr hrow hrow rfl (driver?_addDriver hknown))
  | @driverEdited driver =>
    by_cases hd : row.driverId = driver
    · exact .inr (.inl ⟨rfl, row, hrow, hd⟩)
    · exact .inl (limitsOf_congr hrow hrow rfl (driver?_setDriver_of_ne hd))
  | synced => exact .inl (by rw [World.withTables_tables, refreshAll_eq]; rfl)
  | _ => exact .inl rfl

/-- A call that overloads a shift warns, or it is one that makes its limits tighter. -/
theorem Effect.overloaded (h : Effect w c o w') (hw : w.Sound) (ht : w.tables.Settled)
    (hover : w'.tables.Overloaded shift) :
    w.tables.Overloaded shift ∨ Warns shift c o ∨
      (o.isOk = true ∧ c.Tightens w.tables shift) ∨
      LeavesDriver w.tables shift c o w'.tables := by
  by_cases hassign : ∃ request, c = .assign shift request ∧ o.isOk = true
  · obtain ⟨request, rfl, hok⟩ := hassign
    right; left
    cases h with
    | stopped => cases hok
    | viewed view => cases view
    | @bound _ _ locked row found hrow =>
      -- the warning is about the limits that were locked and the load as it is now
      obtain ⟨limits, hlimits, hwarning⟩ := overloaded_iff.1 hover
      have hsame : limits = locked.capacity :=
        Option.some.inj (hlimits.symm.trans (limitsOf_of_lockedOf found))
      rw [World.withTables_tables, load_totals_assign hw.lawful hrow, hsame] at hwarning
      exact ⟨request, rfl, by rw [hwarning]⟩
  by_cases hstaff : ∃ user, c = .assignStaff shift user ∧ o.isOk = true
  · obtain ⟨user, rfl, hok⟩ := hstaff
    exact .inr (.inr (.inl ⟨hok, rfl⟩))
  have hle := h.load_le hw ht (not_exists.1 hassign) (not_exists.1 hstaff)
  cases hrow : w.tables.shift? shift with
  | none =>
    rw [load_of_shift?_eq_none hw.lawful hrow] at hle
    exact absurd hover (not_overloaded_of_le_zero (h.sound hw).lawful hle)
  | some row =>
    rcases h.limitsOf_eq hw hrow with hlimits | htightens | hleft
    · exact .inl (hover.of_le hle hlimits)
    · exact .inr (.inr (.inl htightens))
    · exact .inr (.inr (.inr hleft))

/-! ### Runs -/

/-- Nothing that goes through adds staff to the shift, gives it to another driver, or edits its
driver. -/
def KeepsRoom (timeout shift : Int) : List TimedCall → World → Prop
  | [], _ => True
  | c :: cs, w =>
    ¬ ((c.make timeout w).outcome.isOk = true ∧ c.call.Tightens w.tables shift) ∧
      KeepsRoom timeout shift cs (c.make timeout w).after

/-- A call of the run leaves the shift to another driver although it fails. -/
def LosesDriver (timeout shift : Int) (cs : List TimedCall) (w : World) : Prop :=
  ∃ before c rest, cs = before ++ c :: rest ∧
    let e := c.make timeout (worldAfter timeout before w)
    LeavesDriver (worldAfter timeout before w).tables shift e.call e.outcome e.after.tables

theorem LosesDriver.cons {timeout : Int} {c : TimedCall} {cs : List TimedCall}
    (h : LosesDriver timeout shift cs (c.make timeout w).after) :
    LosesDriver timeout shift (c :: cs) w := by
  obtain ⟨before, d, rest, rfl, hleft⟩ := h
  exact ⟨c :: before, d, rest, rfl, hleft⟩

theorem warned_of_run {timeout : Int} (cs : List TimedCall) (hw : w.Sound)
    (ht : w.tables.Settled) (hroom : KeepsRoom timeout shift cs w)
    (hbegin : ¬ w.tables.Overloaded shift)
    (hover : (worldAfter timeout cs w).tables.Overloaded shift) :
    (∃ e ∈ journal timeout cs w, Warns shift e.call e.outcome) ∨
      LosesDriver timeout shift cs w := by
  induction cs generalizing w with
  | nil => exact absurd hover hbegin
  | cons c cs ih =>
    have hmoment : (w.atMoment c.moment).Sound := ⟨hw.lawful, hw.within⟩
    have heffect := c.make_effect timeout w
    by_cases hnow : (c.make timeout w).after.tables.Overloaded shift
    · -- it is this call that has overloaded the shift
      rcases heffect.overloaded hmoment ht hnow with hbefore | hwarns | htightens | hleft
      · exact absurd hbefore hbegin
      · exact .inl ⟨_, List.mem_cons_self, hwarns⟩
      · exact absurd htightens hroom.1
      · exact .inr ⟨[], c, cs, rfl, hleft⟩
    · rcases ih (heffect.sound hmoment) (heffect.settled hmoment ht) hroom.2 hnow hover with
        ⟨e, he, hwarns⟩ | hloses
      · exact .inl ⟨e, List.mem_cons_of_mem _ he, hwarns⟩
      · exact .inr hloses.cons

/-- If what is bound to a shift passes a limit of its driver's car, then an assignment to the
shift has warned, as long as nothing has made the limits tighter; or an edit that left the
calendar has changed the driver, although it failed. -/
theorem overload_was_announced (timeout : Int) (cs : List TimedCall) (w : World) (h : IsFresh w)
    (hnone : w.tables.staffings = []) (shift : Int) (hroom : KeepsRoom timeout shift cs w)
    (hover : (worldAfter timeout cs w).tables.Overloaded shift) :
    (∃ e ∈ journal timeout cs w, Warns shift e.call e.outcome) ∨
      LosesDriver timeout shift cs w := by
  have hload : w.tables.load shift = ⟨0, 0, 0, 0⟩ := by
    apply load_eq_zero
    · rw [bindingsOn, h.noBindings, List.filter_nil]
    · rw [hnone, List.filter_nil]
  refine warned_of_run cs h.sound h.settled hroom (not_overloaded_of_le_zero h.sound.lawful ?_)
    hover
  rw [hload]
  exact ⟨le_rfl, le_rfl, le_rfl⟩

/-- Two riders come to a shift with more bags than its car takes, and the shift is published. -/
def crowding : List TimedCall :=
  [smallRequest,
    .createRequest 2 ⟨"CA2", "2026-03-01", "T5", 1, 1, "2026-03-01 11:00:00"⟩,
    .assign 1 1,
    .assign 1 2,
    .publishShift 1].map .undisturbed

theorem overload_was_announced_of_crowding :
    IsFresh smallDesk ∧ smallDesk.tables.staffings = [] ∧ KeepsRoom 0 1 crowding smallDesk ∧
    (worldAfter 0 crowding smallDesk).tables.Overloaded 1 ∧
    ∃ e ∈ journal 0 crowding smallDesk, Warns 1 e.call e.outcome := by
  have hroom : KeepsRoom 0 1 crowding smallDesk :=
    ⟨And.right, And.right, And.right, And.right, And.right, trivial⟩
  have hover : (worldAfter 0 crowding smallDesk).tables.Overloaded 1 :=
    overloaded_iff.2 ⟨⟨2, 2, 2⟩, by decide +kernel, by decide +kernel⟩
  refine ⟨isFresh_smallDesk, rfl, hroom, hover, ?_⟩
  rcases overload_was_announced 0 crowding smallDesk isFresh_smallDesk rfl 1 hroom hover with
    hwarns | ⟨before, c, rest, hcs, hleft⟩
  · exact hwarns
  · -- no shift is edited
    obtain ⟨change, hc⟩ := hleft.edit
    have hedit : c.call ∈ crowding.map (·.call) := by
      rw [hcs, List.map_append, List.map_cons]
      exact List.mem_append_right _ List.mem_cons_self
    change c.call = _ at hc
    rw [hc] at hedit
    simp [crowding, TimedCall.undisturbed, smallRequest] at hedit

/-- A shift that carries a rider is given to a driver with no room, by an edit that leaves the
calendar.  The edit fails, and nobody is warned. -/
def lostDriver : List TimedCall :=
  [.createDriver ⟨"Eve", "Bike", ⟨0, 0, 0⟩⟩,
    smallRequest,
    .assign 1 1,
    .updateShift 1 ⟨some 2, some Calendar.DateTime.last⟩].map .undisturbed

theorem silent_overload_of_lostDriver :
    IsFresh smallDesk ∧ smallDesk.tables.staffings = [] ∧ KeepsRoom 0 1 lostDriver smallDesk ∧
    (worldAfter 0 lostDriver smallDesk).tables.Overloaded 1 ∧
    ∀ e ∈ journal 0 lostDriver smallDesk, ¬ Warns 1 e.call e.outcome := by
  refine ⟨isFresh_smallDesk, rfl, ⟨And.right, And.right, And.right, ?_, trivial⟩, ?_, ?_⟩
  · rintro ⟨hok, -⟩
    revert hok
    decide +kernel
  · exact overloaded_iff.2 ⟨⟨0, 0, 0⟩, by decide +kernel, by decide +kernel⟩
  · have hnone : ∀ e ∈ journal 0 lostDriver smallDesk,
        e.outcome ≠ .ok (.assigned (some .capacityOverload)) := by decide +kernel
    rintro e he ⟨request, -, ho⟩
    exact hnone e he ho

end Desk
end ShuttleDesk
