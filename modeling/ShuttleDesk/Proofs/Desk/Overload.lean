/-
  ShuttleDesk/Proofs/Desk/Overload.lean
  =====================================
  The warning of an assignment is about the shift as it is afterwards.  The desk adds up
  what is bound to the shift before it writes, and corrects the sums by hand for the
  rider who comes in.  The corrected sums are exactly the sums over the rows that are
  bound to the shift after the assignment: no row is counted twice or left out, and the
  rider's bags are those of the request.

  Sums over bindings and sums over requests agree because a request has one binding at
  most and a binding names one request.
-/
import ShuttleDesk.Proofs.Desk.Booking

namespace ShuttleDesk

/-- What a shift carries, read off what is bound to it. -/
def Load.totals (l : Load) : Totals :=
  { seats := l.boundRequests + l.staff, checkedBags := l.checkedBags, carryOnBags := l.carryOnBags }

theorem Totals.warning_eq_some_iff {t : Totals} {c : Capacity} :
    t.warning c = some .capacityOverload ↔
      c.maxSeats < t.seats ∨ c.maxChecked < t.checkedBags ∨ c.maxCarryOn < t.carryOnBags := by
  unfold Totals.warning Totals.exceeds
  by_cases hs : c.maxSeats < t.seats <;> by_cases hc : c.maxChecked < t.checkedBags <;>
    by_cases ho : c.maxCarryOn < t.carryOnBags <;> simp [hs, hc, ho]

namespace Tables

variable {t : Tables} {now : Calendar.WallClock} {shift request : Int}

/-! ### Sums of counts -/

variable {count : Request → Int} {rs ss : List Request}

theorem total_append : total count (rs ++ ss) = total count rs + total count ss := by
  induction rs with
  | nil => exact (Int.zero_add _).symm
  | cons r rs ih =>
    change count r + total count (rs ++ ss) = count r + total count rs + total count ss
    rw [ih, Int.add_assoc]

theorem total_singleton (r : Request) : total count [r] = count r := Int.add_zero _

/-- Only the counts matter. -/
theorem total_of_map_eq (h : rs.map count = ss.map count) : total count rs = total count ss := by
  have hfoldr : ∀ rs, total count rs = (rs.map count).foldr (fun n m => n + m) 0 := by
    intro rs
    rw [List.foldr_map]
    rfl
  rw [hfoldr, hfoldr, h]

/-- The order does not matter. -/
theorem total_perm (h : rs.Perm ss) : total count rs = total count ss := by
  induction h with
  | nil => rfl
  | cons r h ih => exact congrArg (count r + ·) ih
  | swap r s rs =>
    change count s + (count r + total count rs) = count r + (count s + total count rs)
    omega
  | trans h k ih₁ ih₂ => exact ih₁.trans ih₂

/-! ### Sums over bindings and over requests -/

theorem mem_requestsOn {r : Request} :
    r ∈ t.requestsOn shift ↔ r ∈ t.requests ∧ t.isBound shift r.id = true := List.mem_filter

theorem mem_boundRows {r : Request} :
    r ∈ t.boundRows shift ↔ r ∈ t.requests ∧ t.isBound shift r.id = true := by
  simp only [boundRows, bindingsOn, List.mem_flatMap, List.mem_filter, isBound_iff, beq_iff_eq]
  constructor
  · rintro ⟨b, ⟨hb, rfl⟩, hr, hid⟩
    rw [hid]
    exact ⟨hr, hb⟩
  · rintro ⟨hr, hb⟩
    exact ⟨_, ⟨hb, rfl⟩, hr, rfl⟩

theorem map_id_boundRows (h : t.Lawful) :
    (t.boundRows shift).map (·.id) = (t.bindingsOn shift).map (·.requestId) := by
  have hone : ∀ b ∈ t.bindings, (t.requests.filter (·.id == b.requestId)).map (·.id)
      = [b.requestId] := by
    intro b hb
    obtain ⟨r, hr⟩ := Option.isSome_iff_exists.1 (request?_isSome_iff.2 (h.bindings b hb).2)
    rw [filter_id_eq h hr]
    simp [(mem_of_request? hr).2]
  rw [boundRows, List.map_flatMap]
  have hflat : ∀ bs : List Binding, (∀ b ∈ bs, b ∈ t.bindings) →
      bs.flatMap (fun b => (t.requests.filter (·.id == b.requestId)).map (·.id))
        = bs.map (·.requestId) := by
    intro bs hbs
    induction bs with
    | nil => rfl
    | cons b bs ih =>
      rw [List.flatMap_cons, hone b (hbs b List.mem_cons_self),
        ih fun b hb => hbs b (List.mem_cons_of_mem _ hb)]
      rfl
  exact hflat _ fun b hb => (List.mem_filter.1 hb).1

/-- The rows that the bindings of a shift name are the requests bound to it, each once. -/
theorem boundRows_perm (h : t.Lawful) : (t.boundRows shift).Perm (t.requestsOn shift) := by
  have hbound : (t.boundRows shift).Nodup := by
    apply List.Nodup.of_map (·.id)
    rw [map_id_boundRows h]
    exact (List.filter_sublist.map _).nodup h.boundOnce
  have hrequests : (t.requestsOn shift).Nodup := h.nodup_requests.filter _
  rw [List.perm_ext_iff_of_nodup hbound hrequests]
  intro r
  rw [mem_boundRows, mem_requestsOn]

theorem length_bindingsOn (h : t.Lawful) :
    (t.bindingsOn shift).length = (t.requestsOn shift).length := by
  rw [← (boundRows_perm h).length_eq, ← List.length_map (·.requestId), ← map_id_boundRows h,
    List.length_map]

theorem mem_map_id_staffOf (h : t.Lawful) {user : Int} :
    user ∈ (t.staffOf shift).map (·.id) ↔ (⟨shift, user⟩ : Staffing) ∈ t.staffings := by
  simp only [staffOf, List.mem_map, List.mem_filter, List.contains_iff_mem]
  constructor
  · rintro ⟨u, ⟨-, hb⟩, rfl⟩
    exact hb
  · intro hb
    obtain ⟨u, hu, rfl⟩ := List.mem_map.1 (h.staffings _ hb).2
    exact ⟨u, ⟨hu, hb⟩, rfl⟩

theorem nodup_map_id_staffOf (h : t.Lawful) : ((t.staffOf shift).map (·.id)).Nodup :=
  (List.filter_sublist.map _).nodup (nodup_of_ascending h.users)

theorem length_staffings (h : t.Lawful) :
    (t.staffings.filter (·.shiftId == shift)).length = (t.staffOf shift).length := by
  have hstaffings : ((t.staffings.filter (·.shiftId == shift)).map (·.staffId)).Nodup := by
    refine List.Nodup.map_on ?_ (h.staffedOnce.filter _)
    intro a ha b hb hab
    have ha' : a.shiftId = shift := by simpa using (List.mem_filter.1 ha).2
    have hb' : b.shiftId = shift := by simpa using (List.mem_filter.1 hb).2
    obtain ⟨a₁, a₂⟩ := a
    obtain ⟨b₁, b₂⟩ := b
    simp_all
  have hperm : ((t.staffings.filter (·.shiftId == shift)).map (·.staffId)).Perm
      ((t.staffOf shift).map (·.id)) := by
    rw [List.perm_ext_iff_of_nodup hstaffings (nodup_map_id_staffOf h)]
    intro id
    simp only [mem_map_id_staffOf h, List.mem_map, List.mem_filter, beq_iff_eq]
    constructor
    · rintro ⟨b, ⟨hb, rfl⟩, rfl⟩
      exact hb
    · intro hb
      exact ⟨_, ⟨hb, rfl⟩, rfl⟩
  simpa using hperm.length_eq

/-- The load of a shift, counted and added up over its requests and its staff. -/
theorem load_eq (h : t.Lawful) (shift : Int) : t.load shift =
    { boundRequests := (t.requestsOn shift).length
      staff := (t.staffOf shift).length
      checkedBags := total (·.checkedBags) (t.requestsOn shift)
      carryOnBags := total (·.carryOnBags) (t.requestsOn shift) } := by
  rw [load, length_bindingsOn h, length_staffings h, total_perm (boundRows_perm h),
    total_perm (boundRows_perm h)]

/-- What is bound to a shift, counted and added up over its requests and its staff. -/
theorem load_totals (h : t.Lawful) :
    (t.load shift).totals =
      { seats := (t.requestsOn shift).length + (t.staffOf shift).length
        checkedBags := total (·.checkedBags) (t.requestsOn shift)
        carryOnBags := total (·.carryOnBags) (t.requestsOn shift) } := by
  rw [load_eq h]
  rfl

/-! ### One rider more -/

/-- A change of state does not show in counts. -/
theorem map_filter_setStatus {status : RequestStatus}
    (hcount : ∀ r : Request, count { r with status, updatedAt := now } = count r) (id : Int) :
    ((t.setStatus now request status).requests.filter (·.id == id)).map count
      = (t.requests.filter (·.id == id)).map count := by
  change ((updateWhere _ _ t.requests).filter _).map count = _
  rw [updateWhere, List.filter_map, List.map_map]
  have hid : ((fun r : Request => r.id == id) ∘ fun r : Request =>
      if r.id == request then { r with status, updatedAt := now } else r)
        = fun r => r.id == id := by
    funext r
    simp only [Function.comp_apply]
    split <;> rfl
  have hsame : (count ∘ fun r : Request =>
      if r.id == request then { r with status, updatedAt := now } else r) = count := by
    funext r
    simp only [Function.comp_apply]
    split
    · exact hcount r
    · rfl
  rw [hid, hsame]

theorem bindingsOn_bind : (t.bind shift request).bindingsOn shift
    = t.bindingsOn shift ++ [⟨shift, request⟩] := by
  simp [bindingsOn, bind]

theorem total_boundRows_assign (h : t.Lawful) {r : Request} (hr : t.request? request = some r)
    (hcount : ∀ r : Request, count { r with status := .assigned, updatedAt := now } = count r) :
    total count (((t.bind shift request).setStatus now request .assigned).boundRows shift)
      = total count (t.boundRows shift) + count r := by
  have hon : ((t.bind shift request).setStatus now request .assigned).bindingsOn shift
      = t.bindingsOn shift ++ [⟨shift, request⟩] := bindingsOn_bind
  have hrows : ∀ id, ((((t.bind shift request).setStatus now request .assigned).requests.filter
      (·.id == id)).map count) = (t.requests.filter (·.id == id)).map count :=
    map_filter_setStatus hcount
  rw [boundRows, hon, List.flatMap_append, total_append, List.flatMap_singleton]
  congr 1
  · apply total_of_map_eq
    rw [boundRows, List.map_flatMap, List.map_flatMap]
    simp only [hrows]
  · rw [total_of_map_eq (hrows request), filter_id_eq h hr, total_singleton]

/-- The sums that the desk corrects by hand are the sums after the assignment. -/
theorem load_totals_assign (h : t.Lawful) {r : Request} (hr : t.request? request = some r) :
    (((t.bind shift request).setStatus now request .assigned).load shift).totals
      = (t.load shift).withRider r.checkedBags r.carryOnBags := by
  have hriders : (((t.bind shift request).setStatus now request .assigned).bindingsOn shift).length
      = (t.bindingsOn shift).length + 1 := by
    change ((t.bind shift request).bindingsOn shift).length = _
    rw [bindingsOn_bind, List.length_append, List.length_singleton]
  have hchecked : total (·.checkedBags)
      (((t.bind shift request).setStatus now request .assigned).boundRows shift)
        = total (·.checkedBags) (t.boundRows shift) + r.checkedBags :=
    total_boundRows_assign h hr fun _ => rfl
  have hcarryOn : total (·.carryOnBags)
      (((t.bind shift request).setStatus now request .assigned).boundRows shift)
        = total (·.carryOnBags) (t.boundRows shift) + r.carryOnBags :=
    total_boundRows_assign h hr fun _ => rfl
  simp only [Load.totals, load, hriders, hchecked, hcarryOn, Load.withRider]
  rfl

end Tables

namespace Desk

open Tables

/-- An assignment warns exactly if the shift, as it is afterwards, passes a limit of its driver's
car; reaching a limit is no reason to warn.  The totals that it compares are those that are read
off the tables after the assignment. -/
theorem assign_warns_iff_overloaded {timeout shift request : Int} {w w' : World}
    {warning : Option Warning} (hl : w.tables.Lawful)
    (h : assign timeout shift request w = (.ok warning, w')) :
    ∃ s d r,
      w'.tables.shift? shift = some s ∧ w'.tables.driver? s.driverId = some d ∧
      w.tables.request? request = some r ∧
      Shifts.load shift w' = (.ok (w'.tables.load shift), w') ∧
      (w.tables.load shift).withRider r.checkedBags r.carryOnBags
        = (w'.tables.load shift).totals ∧
      (warning = some .capacityOverload ↔
        d.capacity.maxSeats
          < (w'.tables.requestsOn shift).length + (w'.tables.staffOf shift).length ∨
        d.capacity.maxChecked < total (·.checkedBags) (w'.tables.requestsOn shift) ∨
        d.capacity.maxCarryOn < total (·.carryOnBags) (w'.tables.requestsOn shift)) := by
  obtain ⟨ho, -, locked, r, hlocked, -, hr, -, -, hfree, hshift, -, rfl, rfl⟩ :=
    assign_ok_iff.1 h
  obtain ⟨s, hs⟩ := Option.isSome_iff_exists.1 hshift
  -- the limits that were locked are those of the driver, whose row is not touched
  obtain ⟨d, hd, hcapacity⟩ : ∃ d, w.tables.driver? s.driverId = some d ∧
      d.capacity = locked.capacity := by
    rw [Shifts.lockedOf, hs] at hlocked
    cases hd : w.tables.driver? s.driverId with
    | none => simp [hd] at hlocked
    | some d =>
      simp only [hd, Option.bind_eq_bind, Option.bind_some, Option.pure_def,
        Option.some.injEq] at hlocked
      exact ⟨d, rfl, by rw [← hlocked]⟩
  have hrow := request?_isSome_iff.1 (Option.isSome_of_eq_some hr)
  have hafter : ((w.tables.bind shift request).setStatus w.now request .assigned).Lawful :=
    (hl.bind (bindingsOf_eq_nil_iff.1 hfree) (shift?_isSome_iff.1 hshift) hrow).setStatus _
  have htotals : (((w.tables.bind shift request).setStatus w.now request .assigned).load
      shift).totals = (w.tables.load shift).withRider r.checkedBags r.carryOnBags :=
    load_totals_assign hl hr
  refine ⟨s, d, r, hs, hd, hr, Shifts.load_ok_iff.2 ⟨ho, rfl, rfl⟩, htotals.symm, ?_⟩
  rw [← htotals, Totals.warning_eq_some_iff, load_totals hafter, ← hcapacity]
  rfl

/-- The rider of the small desk fills the driver's car up to its limit for carry-on bags. -/
theorem assign_does_not_warn_at_limit :
    let w := worldAfter 0 [.undisturbed smallRequest] smallDesk
    let after := (assign 0 2 1 w).2
    w.tables.Lawful ∧ (assign 0 2 1 w).1 = .ok none ∧
    ∃ d, after.tables.driver? 1 = some d ∧
      total (·.carryOnBags) (after.tables.requestsOn 2) = d.capacity.maxCarryOn ∧
      ¬ (d.capacity.maxSeats < (after.tables.requestsOn 2).length + (after.tables.staffOf 2).length ∨
        d.capacity.maxChecked < total (·.checkedBags) (after.tables.requestsOn 2) ∨
        d.capacity.maxCarryOn < total (·.carryOnBags) (after.tables.requestsOn 2)) := by
  intro w after
  have hlawful : w.tables.Lawful := (sound_worldAfter 0 _ isFresh_smallDesk.sound).lawful
  have hnone : (assign 0 2 1 w).1 = .ok none := by decide +kernel
  have hshift : after.tables.shift? 2 = some ⟨2, 1, ⟨0⟩, .draft, ⟨0⟩⟩ := by decide +kernel
  have hdriver : after.tables.driver? 1 = some ⟨1, "Dan", "Van", ⟨2, 2, 2⟩⟩ := by decide +kernel
  have hbags : total (·.carryOnBags) (after.tables.requestsOn 2) = 2 := by decide +kernel
  obtain ⟨s, d, r, hs, hd, -, -, -, hiff⟩ :=
    assign_warns_iff_overloaded hlawful (Prod.ext hnone rfl : assign 0 2 1 w = (.ok none, after))
  obtain rfl : _ = s := Option.some.inj (hshift.symm.trans hs)
  obtain rfl : _ = d := Option.some.inj (hdriver.symm.trans hd)
  exact ⟨hlawful, hnone, _, hdriver, hbags, fun hover => nomatch hiff.2 hover⟩

end Desk
end ShuttleDesk
