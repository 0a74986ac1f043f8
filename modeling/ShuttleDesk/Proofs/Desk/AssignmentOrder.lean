/-
  ShuttleDesk/Proofs/Desk/AssignmentOrder.lean
  ============================================
  Requests that are bound to one shift, one after the other.  The order in which that is
  done shows in nothing but the stamps of the requests, and in which of the calls warn.

  A call warns by what the shift carries after it, and that only grows: the car fills.
  So once a call warns all later ones do, and the last one compares the same totals in
  every order.  If the bags stay within the limits, the seats alone decide, and each
  call takes one: then the number of warnings can be told beforehand.
-/
import ShuttleDesk.Proofs.Desk.BindingInverse
import ShuttleDesk.Proofs.Desk.OverloadHistory

namespace ShuttleDesk

open Procedure Statement

/-! ### A car that fills -/

namespace Totals

/-- The totals with one more rider. -/
def add (a : Totals) (r : Request) : Totals where
  seats := a.seats + 1
  checkedBags := a.checkedBags + r.checkedBags
  carryOnBags := a.carryOnBags + r.carryOnBags

/-- The totals after each of the riders. -/
def filling (a : Totals) : List Request → List Totals
  | [] => []
  | r :: rs => a.add r :: (a.add r).filling rs

/-- The totals after all of the riders. -/
def full (a : Totals) (rs : List Request) : Totals := rs.foldl add a

variable {a b c : Totals} {r : Request} {rs ss : List Request} {limits : Capacity}

theorem add_right_comm (a : Totals) (r s : Request) : (a.add r).add s = (a.add s).add r := by
  simp only [add, mk.injEq, true_and]
  exact ⟨Int.add_right_comm .., Int.add_right_comm ..⟩

/-- In the end the order of the riders does not matter. -/
theorem full_perm (h : rs.Perm ss) (a : Totals) : a.full rs = a.full ss := by
  apply h.foldl_eq'
  intro r _ s _ b
  exact add_right_comm b r s

theorem getLast?_filling (a : Totals) (rs : List Request) :
    (a.filling rs).getLast? = if rs = [] then none else some (a.full rs) := by
  induction rs generalizing a with
  | nil => rfl
  | cons r rs ih =>
    rw [filling, List.getLast?_cons, ih]
    cases rs <;> rfl

theorem length_filling (a : Totals) (rs : List Request) : (a.filling rs).length = rs.length := by
  induction rs generalizing a with
  | nil => rfl
  | cons r rs ih => rw [filling, List.length_cons, List.length_cons, ih]

theorem le_add (h : Requests.bagsAllowed r.checkedBags r.carryOnBags = true) : a.Le (a.add r) := by
  obtain ⟨hchecked, hcarryOn⟩ := Requests.bagsAllowed_iff.1 h
  constructor <;> simp only [add] <;> omega

theorem le_full (h : ∀ r ∈ rs, Requests.bagsAllowed r.checkedBags r.carryOnBags = true) :
    a.Le (a.full rs) := by
  induction rs generalizing a with
  | nil => exact .refl a
  | cons r rs ih =>
    rw [List.forall_mem_cons] at h
    exact (le_add h.1).trans (ih h.2)

theorem le_of_mem_filling (h : ∀ r ∈ rs, Requests.bagsAllowed r.checkedBags r.carryOnBags = true)
    (hb : b ∈ a.filling rs) : a.Le b := by
  induction rs generalizing a with
  | nil => cases hb
  | cons r rs ih =>
    rw [List.forall_mem_cons] at h
    rcases List.mem_cons.1 hb with rfl | hb
    · exact le_add h.1
    · exact (le_add h.1).trans (ih h.2 hb)

/-- A car that fills does not get emptier. -/
theorem pairwise_filling (h : ∀ r ∈ rs, Requests.bagsAllowed r.checkedBags r.carryOnBags = true) :
    (a.filling rs).Pairwise Le := by
  induction rs generalizing a with
  | nil => exact .nil
  | cons r rs ih =>
    rw [List.forall_mem_cons] at h
    exact .cons (fun b hb => le_of_mem_filling h.2 hb) (ih h.2)

/-- While the bags stay within the limits, every rider without a seat is told of. -/
theorem count_filling (h : ∀ r ∈ rs, Requests.bagsAllowed r.checkedBags r.carryOnBags = true)
    (hchecked : (a.full rs).checkedBags ≤ limits.maxChecked)
    (hcarryOn : (a.full rs).carryOnBags ≤ limits.maxCarryOn) :
    (((a.filling rs).map (·.warning limits)).count (some .capacityOverload) : Int)
      = max 0 (min (rs.length : Int) (a.seats + rs.length - limits.maxSeats)) := by
  -- each rider takes a seat before the rest come in, and the bags end as they are
  induction rs generalizing a with
  | nil =>
    simp only [filling, List.map_nil, List.count_nil, List.length_nil]
    omega
  | cons r rs ih =>
    rw [List.forall_mem_cons] at h
    have hle : (a.add r).Le (a.full (r :: rs)) := le_full h.2
    -- what is within the limits in the end is within them now, so only the seats can pass theirs
    have hwarns : (a.add r).warning limits = some .capacityOverload
        ↔ limits.maxSeats < a.seats + 1 := by
      obtain ⟨-, hc, ho⟩ := hle
      rw [warning_eq_some_iff]
      simp only [add] at hc ho ⊢
      omega
    have hrest := ih h.2 hchecked hcarryOn
    have hseats : (a.add r).seats = a.seats + 1 := rfl
    rw [hseats] at hrest
    rw [filling, List.map_cons, List.count_cons, List.length_cons]
    simp only [beq_iff_eq, hwarns]
    push_cast
    rw [hrest]
    split <;> omega

end Totals

namespace Tables

variable {p : Int → Bool} {t : Tables} {shift request : Int} {now : Calendar.WallClock}

/-- Requests are bound to a shift, and their stamps stay. -/
def assignAll (t : Tables) (shift : Int) (order : List Int) : Tables :=
  { t with
    requests := updateWhere (order.contains ·.id) (fun r => { r with status := .assigned })
      t.requests
    bindings := t.bindings ++ order.map (Binding.mk shift) }

theorem assignAll_nil (t : Tables) (shift : Int) : t.assignAll shift [] = t := by
  have hrequests : updateWhere (([] : List Int).contains ·.id)
      (fun r : Request => { r with status := .assigned }) t.requests = t.requests := by
    apply updateWhere_eq_self
    intro r _ hchosen
    cases hchosen
  rw [assignAll, hrequests, List.map_nil, List.append_nil]

/-- One request after the other is all of them. -/
theorem sameButStamps_assignAll_cons {order : List Int} (hp : p request = true) :
    (t.assignAll shift (request :: order)).SameButStamps p
      (((t.bind shift request).setStatus now request .assigned).assignAll shift order) where
  users := rfl
  drivers := rfl
  shifts := rfl
  staffings := rfl
  bindings := by
    have hbindings : (t.bindings ++ [⟨shift, request⟩]) ++ order.map (Binding.mk shift)
        = t.bindings ++ (request :: order).map (Binding.mk shift) := by
      rw [List.append_assoc, List.map_cons, List.singleton_append]
    exact .of_eq hbindings
  requests := by
    change (updateWhere _ _ (updateWhere _ _ t.requests)).map _ = (updateWhere _ _ t.requests).map _
    simp only [updateWhere, List.map_map]
    apply List.map_congr_left
    intro r _
    rcases eq_or_ne r.id request with rfl | hne
    · by_cases hlater : r.id ∈ order <;> simp [Request.unstamped, hp, hlater]
    · by_cases hlater : r.id ∈ order <;> simp [hne, hlater]

theorem sameButStamps_assignAll_perm {order order' : List Int} (h : order.Perm order') :
    (t.assignAll shift order).SameButStamps p (t.assignAll shift order') where
  users := rfl
  drivers := rfl
  shifts := rfl
  staffings := rfl
  bindings := (h.symm.map (Binding.mk shift)).append_left t.bindings
  requests := by
    have hchosen : ∀ r ∈ t.requests, order'.contains r.id = order.contains r.id := by
      intro r _
      rw [Bool.eq_iff_iff, List.contains_iff_mem, List.contains_iff_mem]
      exact h.symm.mem_iff
    exact congrArg (List.map _) (updateWhere_congr hchosen)

end Tables

namespace Desk

open Tables

/-- Calls that bind requests to a shift, one after the other.  Nothing is in the way of any. -/
structure Binds (shift : Int) (order : List Int) (cs : List TimedCall) : Prop where
  calls : cs.map (·.call) = order.map (Call.assign shift)
  calm : ∀ c ∈ cs, ∀ w : World, (w.atMoment c.moment).IsCalm

variable {w : World} {wait shift : Int} {limits : Capacity}

theorem withRider_eq_add (l : Load) (r : Request) :
    l.withRider r.checkedBags r.carryOnBags = l.totals.add r := by
  simp only [Load.withRider, Load.totals, Totals.add, Totals.mk.injEq, and_true]
  omega

/-! ### One call -/

/-- A pending request is bound, and the call warns by the totals with its rider. -/
theorem make_assign {c : TimedCall} {r : Request} (hwait : wait ≤ greatestLockTimeout)
    (ht : InOrder w.tables) (hlimits : w.tables.limitsOf shift = some limits)
    (hcalm : (w.atMoment c.moment).IsCalm) (hcall : c.call = .assign shift r.id)
    (hr : w.tables.request? r.id = some r) (hpending : r.status = .pending) :
    bindRefusal? w.tables shift r.id = none ∧
    (c.make wait w).outcome
      = .ok (.assigned (((w.tables.load shift).totals.add r).warning limits)) ∧
    (c.make wait w).after.tables
      = (w.tables.bind shift r.id).setStatus c.moment.now r.id .assigned := by
  have hshift : (w.tables.shift? shift).isSome = true := by
    obtain ⟨s, hs, -⟩ := Option.bind_eq_some_iff.1 hlimits
    exact Option.isSome_of_eq_some hs
  have hnone : bindRefusal? w.tables shift r.id = none :=
    bindRefusal?_eq_none_iff.2 ⟨hshift, r, hr, hpending⟩
  have hready : IsReady (w.atMoment c.moment) := ⟨hcalm, ht⟩
  obtain ⟨warning, hrun⟩ := hready.assign_run hwait hnone
  have hmade : c.make wait w = ⟨.assign shift r.id, .ok (.assigned warning),
      (w.atMoment c.moment).withTables
        ((w.tables.bind shift r.id).setStatus c.moment.now r.id .assigned)⟩ := by
    rw [TimedCall.make, hcall, Call.perform, map_run, hrun]
    rfl
  obtain ⟨-, -, locked, row, hlocked, -, hrow, -, -, -, -, -, hwarning, -⟩ := assign_ok_iff.1 hrun
  obtain rfl : row = r := Option.some.inj (hrow.symm.trans hr)
  obtain rfl : locked.capacity = limits :=
    Option.some.inj ((limitsOf_of_lockedOf hlocked).symm.trans hlimits)
  rw [withRider_eq_add] at hwarning
  rw [hmade, ← hwarning]
  exact ⟨hnone, rfl, rfl⟩

/-! ### All calls -/

/-- Every call goes through, and warns by the totals that the car is filled to. -/
theorem run_of_binds {p : Int → Bool} {rows : List Request} {cs : List TimedCall}
    (hwait : wait ≤ greatestLockTimeout) (ht : InOrder w.tables)
    (hlimits : w.tables.limitsOf shift = some limits) (hnodup : (rows.map (·.id)).Nodup)
    (hrows : ∀ r ∈ rows, w.tables.request? r.id = some r ∧ r.status = .pending)
    (hp : ∀ r ∈ rows, p r.id = true) (hcs : Binds shift (rows.map (·.id)) cs) :
    (journal wait cs w).map (·.outcome)
      = ((w.tables.load shift).totals.filling rows).map
          (fun a => .ok (.assigned (a.warning limits))) ∧
    ((worldAfter wait cs w).tables.load shift).totals = (w.tables.load shift).totals.full rows ∧
    (w.tables.assignAll shift (rows.map (·.id))).SameButStamps p
      (worldAfter wait cs w).tables := by
  induction rows generalizing cs w with
  | nil =>
    obtain rfl : cs = [] := List.map_eq_nil_iff.1 hcs.calls
    refine ⟨rfl, rfl, ?_⟩
    rw [List.map_nil, assignAll_nil]
    exact .refl _
  | cons r rows ih =>
    obtain ⟨c, cs, rfl, hcall, hcalls⟩ := List.map_eq_cons_iff.1 hcs.calls
    rw [List.forall_mem_cons] at hrows hp
    obtain ⟨hnew, hnodup⟩ := List.nodup_cons.1 hnodup
    obtain ⟨hnone, houtcome, hafter⟩ := make_assign hwait ht hlimits
      (hcs.calm c List.mem_cons_self w) hcall hrows.1.1 hrows.1.2
    have hinOrder : InOrder (c.make wait w).after.tables := by
      rw [hafter]
      exact ht.assign hnone
    have htotals : ((c.make wait w).after.tables.load shift).totals
        = (w.tables.load shift).totals.add r := by
      rw [hafter, load_totals_assign ht.lawful hrows.1.1, withRider_eq_add]
    -- the rows that are still to be bound are those that were there
    have hlater : ∀ s ∈ rows,
        (c.make wait w).after.tables.request? s.id = some s ∧ s.status = .pending := by
      intro s hs
      have hne : s.id ≠ r.id := by
        intro hid
        have hmem : s.id ∈ rows.map (·.id) := List.mem_map_of_mem hs
        rw [hid] at hmem
        exact hnew hmem
      rw [hafter, request?_setStatus_of_ne hne]
      exact hrows.2 s hs
    have hrest : Binds shift (rows.map (·.id)) cs :=
      ⟨hcalls, fun d hd => hcs.calm d (List.mem_cons_of_mem c hd)⟩
    obtain ⟨houtcomes, hfull, hsame⟩ :=
      ih hinOrder (hafter ▸ hlimits) hnodup hlater hp.2 hrest
    rw [htotals] at houtcomes hfull
    refine ⟨?_, hfull, ?_⟩
    · rw [journal, List.map_cons, houtcome, houtcomes]
      rfl
    · rw [hafter] at hsame
      exact (sameButStamps_assignAll_cons hp.1).trans hsame

/-! ### Any order -/

/-- The warnings of calls that fill a car, from what the shift carried before them to what it
carries after them: once there is one there is always one, and unless the bags pass a limit there is
one for every rider without a seat. -/
structure WarnsWhileFilling (limits : Capacity) (before after : Load)
    (warnings : List (Option Warning)) : Prop where
  lasting : warnings.Pairwise fun a b => a = some .capacityOverload → b = some .capacityOverload
  count : after.checkedBags ≤ limits.maxChecked → after.carryOnBags ≤ limits.maxCarryOn →
    (warnings.count (some .capacityOverload) : Int) = max 0 (min (warnings.length : Int)
      (before.boundRequests + before.staff + warnings.length - limits.maxSeats))

theorem warnsWhileFilling {before after : Load} {rows : List Request}
    (hbags : ∀ r ∈ rows, Requests.bagsAllowed r.checkedBags r.carryOnBags = true)
    (hfull : after.totals = before.totals.full rows) :
    WarnsWhileFilling limits before after
      ((before.totals.filling rows).map (·.warning limits)) where
  lasting := by
    rw [List.pairwise_map]
    refine (Totals.pairwise_filling hbags).imp ?_
    intro a b hle
    exact hle.warning
  count := by
    intro hchecked hcarryOn
    have hchecked : (before.totals.full rows).checkedBags ≤ limits.maxChecked := hfull ▸ hchecked
    have hcarryOn : (before.totals.full rows).carryOnBags ≤ limits.maxCarryOn := hfull ▸ hcarryOn
    have hcount := Totals.count_filling hbags hchecked hcarryOn
    rw [List.length_map, Totals.length_filling]
    exact hcount

/-- Requests that are there are known by their ids. -/
theorem map_id_rows {t : Tables} {order : List Int}
    (h : ∀ request ∈ order, ∃ r, t.request? request = some r ∧ r.status = .pending) :
    (order.filterMap t.request?).map (·.id) = order ∧
    ∀ r ∈ order.filterMap t.request?, t.request? r.id = some r ∧ r.status = .pending := by
  constructor
  · induction order with
    | nil => rfl
    | cons request order ih =>
      rw [List.forall_mem_cons] at h
      obtain ⟨⟨r, hr, -⟩, hrest⟩ := h
      rw [List.filterMap_cons_some hr, List.map_cons, ih hrest, (mem_of_request? hr).2]
  · intro r hr
    obtain ⟨request, hmem, hrow⟩ := List.mem_filterMap.1 hr
    obtain ⟨s, hs, hpending⟩ := h request hmem
    obtain rfl : s = r := Option.some.inj (hs.symm.trans hrow)
    obtain rfl := (mem_of_request? hrow).2
    exact ⟨hs, hpending⟩

/-- The requests in one order. -/
theorem run_of_order {p : Int → Bool} {order : List Int} {cs : List TimedCall}
    (hwait : wait ≤ greatestLockTimeout) (ht : InOrder w.tables)
    (hlimits : w.tables.limitsOf shift = some limits) (hnodup : order.Nodup)
    (hpending : ∀ request ∈ order, ∃ r,
      w.tables.request? request = some r ∧ r.status = .pending)
    (hp : ∀ request ∈ order, p request = true) (hcs : Binds shift order cs) :
    let warnings := ((w.tables.load shift).totals.filling
      (order.filterMap w.tables.request?)).map (·.warning limits)
    (journal wait cs w).map (·.outcome) = warnings.map (fun o => .ok (.assigned o)) ∧
    (w.tables.assignAll shift order).SameButStamps p (worldAfter wait cs w).tables ∧
    WarnsWhileFilling limits (w.tables.load shift)
      ((worldAfter wait cs w).tables.load shift) warnings := by
  intro warnings
  obtain ⟨hids, hrows⟩ := map_id_rows hpending
  have hp' : ∀ r ∈ order.filterMap w.tables.request?, p r.id = true := by
    intro r hr
    apply hp
    rw [← hids]
    exact List.mem_map_of_mem hr
  have hbags : ∀ r ∈ order.filterMap w.tables.request?,
      Requests.bagsAllowed r.checkedBags r.carryOnBags = true := by
    intro r hr
    exact ht.lawful.bags r (mem_of_request? (hrows r hr).1).1
  rw [← hids] at hnodup hcs
  obtain ⟨houtcomes, hfull, hsame⟩ := run_of_binds hwait ht hlimits hnodup hrows hp' hcs
  rw [hids] at hsame
  refine ⟨?_, hsame, warnsWhileFilling hbags hfull⟩
  rw [houtcomes, List.map_map]
  rfl

/-- In every world that calls lead to, pending requests are bound to one shift, one after the other
and while nothing is in the way.  All calls go through, and in any other order of the requests they
do so as well, leave the same rows but for stamps, and have the same warning last.  In every order
a warning is followed by warnings only; and if the bags keep within the limits, the number of
warnings is that of the riders without a seat. -/
theorem assignment_order_irrelevant (timeout : Int) (history : List TimedCall) {w₀ w : World}
    (h : IsFresh w₀) (hreached : w.tables = (worldAfter timeout history w₀).tables)
    (wait shift : Int) (hwait : wait ≤ greatestLockTimeout)
    (hshift : (w.tables.shift? shift).isSome = true) (order order' : List Int)
    (hnodup : order.Nodup) (hperm : order.Perm order')
    (hpending : ∀ request ∈ order, ∃ r,
      w.tables.request? request = some r ∧ r.status = .pending)
    (cs cs' : List TimedCall) (hcs : Binds shift order cs) (hcs' : Binds shift order' cs') :
    ∃ limits warnings warnings',
      w.tables.limitsOf shift = some limits ∧
      (journal wait cs w).map (·.outcome) = warnings.map (fun o => .ok (.assigned o)) ∧
      (journal wait cs' w).map (·.outcome) = warnings'.map (fun o => .ok (.assigned o)) ∧
      (worldAfter wait cs w).tables.SameButStamps (order.contains ·)
        (worldAfter wait cs' w).tables ∧
      warnings.getLast? = warnings'.getLast? ∧
      WarnsWhileFilling limits (w.tables.load shift)
        ((worldAfter wait cs w).tables.load shift) warnings ∧
      WarnsWhileFilling limits (w.tables.load shift)
        ((worldAfter wait cs' w).tables.load shift) warnings' := by
  have ht : InOrder w.tables := by
    rw [hreached]
    exact inOrder_worldAfter timeout history h
  obtain ⟨s, hs⟩ := Option.isSome_iff_exists.1 hshift
  obtain ⟨locked, hlocked⟩ := Shifts.lockedOf_of_shift? ht.lawful hs
  have hlimits := limitsOf_of_lockedOf hlocked
  have hchosen : ∀ request ∈ order, order.contains request = true := by
    intro request hmem
    exact List.contains_iff_mem.2 hmem
  have hrows : (order.filterMap w.tables.request?).Perm (order'.filterMap w.tables.request?) :=
    hperm.filterMap _
  obtain ⟨houtcomes, hsame, hwarns⟩ := run_of_order hwait ht hlimits hnodup hpending hchosen hcs
  obtain ⟨houtcomes', hsame', hwarns'⟩ := run_of_order hwait ht hlimits (hperm.nodup_iff.1 hnodup)
    (fun request hmem => hpending request (hperm.mem_iff.2 hmem))
    (fun request hmem => hchosen request (hperm.mem_iff.2 hmem)) hcs'
  refine ⟨locked.capacity, _, _, hlimits, houtcomes, houtcomes', ?_, ?_, hwarns, hwarns'⟩
  · exact (hsame.symm.trans (sameButStamps_assignAll_perm hperm)).trans hsame'
  · -- the last call compares the totals of all riders
    rw [List.getLast?_map, List.getLast?_map, Totals.getLast?_filling, Totals.getLast?_filling,
      Totals.full_perm hrows]
    simp only [← List.length_eq_zero_iff, hrows.length_eq]

theorem binds_undisturbed (shift : Int) (order : List Int) :
    Binds shift order ((order.map (Call.assign shift)).map .undisturbed) where
  calls := by
    rw [List.map_map]
    exact List.map_id _
  calm := by
    intro c hc w
    obtain ⟨call, -, rfl⟩ := List.mem_map.1 hc
    exact ⟨rfl, rfl, rfl⟩

/-- Two requests of the small desk are bound to its second shift, in both orders.  Their bags are
more than the car holds, so that the second call warns. -/
theorem assignment_order_irrelevant_after_requests :
    let w := worldAfter 0 ([smallRequest, .createRequest 2
      ⟨"CA2", "2026-03-01", "T5", 1, 1, "2026-03-01 11:00:00"⟩].map .undisturbed) smallDesk
    let cs := ([1, 2].map (Call.assign 2)).map .undisturbed
    let cs' := ([2, 1].map (Call.assign 2)).map .undisturbed
    IsFresh smallDesk ∧ Binds 2 [1, 2] cs ∧ Binds 2 [2, 1] cs' ∧
    (journal 5 cs w).map (·.outcome)
      = [.ok (.assigned none), .ok (.assigned (some .capacityOverload))] ∧
    (worldAfter 5 cs w).tables.SameButStamps ([1, 2].contains ·) (worldAfter 5 cs' w).tables := by
  intro w cs cs'
  have hall : [(1 : Int), 2].all (fun id => (w.tables.request? id).any (·.status == .pending))
      = true := by
    decide +kernel
  have hpending : ∀ request ∈ [(1 : Int), 2], ∃ r,
      w.tables.request? request = some r ∧ r.status = .pending := by
    intro request hmem
    obtain ⟨r, hr, hstatus⟩ := (Option.any_eq_true _ _).1 (List.all_eq_true.1 hall request hmem)
    exact ⟨r, hr, beq_iff_eq.1 hstatus⟩
  obtain ⟨_, _, _, -, -, -, hsame, -⟩ :=
    assignment_order_irrelevant 0 _ isFresh_smallDesk (rfl : w.tables = _) 5 2 (by decide)
      (by decide +kernel) [1, 2] [2, 1] (by decide) (.swap 2 1 []) hpending cs cs'
      (binds_undisturbed 2 [1, 2]) (binds_undisturbed 2 [2, 1])
  exact ⟨isFresh_smallDesk, binds_undisturbed 2 [1, 2], binds_undisturbed 2 [2, 1],
    by decide +kernel, hsame⟩

end Desk
end ShuttleDesk
