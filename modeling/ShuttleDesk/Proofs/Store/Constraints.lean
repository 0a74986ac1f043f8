/-
  ShuttleDesk/Proofs/Store/Constraints.lean
  =========================================
  The constraints that the database keeps by itself: ids are unique and given out in
  order, a row that is named exists, a request is bound once at most, and no count is
  negative.  Each change of the tables keeps them if what it writes obeys them.
-/
import ShuttleDesk.Proofs.Store.Answers

namespace ShuttleDesk

/-! ### Rows that keep their key -/

section Keys

variable {α β : Type} {chosen : α → Bool} {change : α → α} {rows : List α} {key : α → β}

theorem map_updateWhere (h : ∀ r ∈ rows, chosen r = true → key (change r) = key r) :
    (updateWhere chosen change rows).map key = rows.map key := by
  unfold updateWhere
  rw [List.map_map]
  apply List.map_congr_left
  intro r hr
  by_cases hc : chosen r = true
  · simp [hc, h r hr hc]
  · simp [hc]

theorem updateWhere_eq_self (h : ∀ r ∈ rows, chosen r = true → change r = r) :
    updateWhere chosen change rows = rows := by
  unfold updateWhere
  rw [List.map_congr_left (g := id)]
  · exact List.map_id rows
  · intro r hr
    by_cases hc : chosen r = true
    · simp [hc, h r hr hc]
    · simp [hc]

theorem updateWhere_congr {chosen' : α → Bool} (h : ∀ r ∈ rows, chosen r = chosen' r) :
    updateWhere chosen change rows = updateWhere chosen' change rows := by
  apply List.map_congr_left
  intro r hr
  rw [h r hr]

/-- A change of chosen rows leaves the others, row by row. -/
theorem forall₂_updateWhere {p : α → Prop} [DecidablePred p] (h : ∀ r, chosen r = true ↔ p r) :
    List.Forall₂ (fun r r' => r' = if p r then change r else r) rows
      (updateWhere chosen change rows) := by
  unfold updateWhere
  rw [List.forall₂_map_right_iff, List.forall₂_same]
  intro r _
  by_cases hr : p r
  · rw [if_pos hr, if_pos ((h r).2 hr)]
  · rw [if_neg hr, if_neg (mt (h r).1 hr)]

/-- Of two changes of the same rows the second counts, if it forgets the first. -/
theorem updateWhere_updateWhere {change' : α → α} (hc : ∀ r, chosen (change r) = chosen r)
    (h : ∀ r, change' (change r) = change' r) :
    updateWhere chosen change' (updateWhere chosen change rows)
      = updateWhere chosen change' rows := by
  unfold updateWhere
  rw [List.map_map]
  apply List.map_congr_left
  intro r _
  by_cases hr : chosen r = true
  · simp [hr, hc, h]
  · simp [hr]

theorem filter_updateWhere (hc : ∀ r, chosen (change r) = chosen r) :
    (updateWhere chosen change rows).filter chosen = (rows.filter chosen).map change := by
  induction rows with
  | nil => rfl
  | cons r rows ih =>
    by_cases hr : chosen r = true
    · simpa [updateWhere, hr, hc] using ih
    · simpa [updateWhere, hr] using ih

theorem find?_updateWhere [BEq β] {k : β} (h : ∀ r, key (change r) = key r) :
    (updateWhere chosen change rows).find? (fun r => key r == k)
      = (rows.find? fun r => key r == k).map fun r => if chosen r then change r else r := by
  unfold updateWhere
  rw [List.find?_map]
  have hkey : ((fun r => key r == k) ∘ fun r => if chosen r then change r else r)
      = fun r => key r == k := by
    funext r
    by_cases hc : chosen r = true
    · simp [hc, h]
    · simp [hc]
  rw [hkey]

theorem find?_isSome_iff [BEq β] [LawfulBEq β] {k : β} :
    (rows.find? fun r => key r == k).isSome = true ↔ k ∈ rows.map key := by
  simp [List.find?_isSome]

/-- A row is found by a unique key. -/
theorem find?_eq_some_iff_of_nodup [BEq β] [LawfulBEq β] (h : (rows.map key).Nodup) {k : β}
    {r : α} : (rows.find? fun r => key r == k) = some r ↔ r ∈ rows ∧ key r = k := by
  constructor
  · intro hr
    exact ⟨List.mem_of_find?_eq_some hr, by simpa using List.find?_some hr⟩
  · rintro ⟨hr, rfl⟩
    have hsome : (rows.find? fun s => key s == key r).isSome = true :=
      find?_isSome_iff.2 (List.mem_map_of_mem hr)
    obtain ⟨s, hs⟩ := Option.isSome_iff_exists.1 hsome
    have hkey : key s = key r := by simpa using List.find?_some hs
    rw [hs, List.inj_on_of_nodup_map h (List.mem_of_find?_eq_some hs) hr hkey]

theorem forall_mem_updateWhere {p : α → Prop} (h : ∀ r ∈ rows, p r)
    (hc : ∀ r ∈ rows, chosen r = true → p (change r)) :
    ∀ r ∈ updateWhere chosen change rows, p r := by
  intro r hr
  rcases mem_updateWhere.1 hr with ⟨s, hs, hchosen, rfl⟩ | ⟨hr, -⟩
  · exact hc s hs hchosen
  · exact h r hr

theorem forall_mem_append_one {p : α → Prop} {a : α} (h : ∀ r ∈ rows, p r) (ha : p a) :
    ∀ r ∈ rows ++ [a], p r := by
  intro r hr
  rcases List.mem_append.1 hr with hr | hr
  · exact h r hr
  · rw [List.mem_singleton.1 hr]
    exact ha

/-- A new key that is greater than all others keeps the keys in order. -/
theorem pairwise_append_one {ids : List Int} {id last : Int} (h : ids.Pairwise (· < ·))
    (hlast : ∀ i ∈ ids, i ≤ last) (hid : last < id) : (ids ++ [id]).Pairwise (· < ·) := by
  rw [List.pairwise_append]
  refine ⟨h, List.pairwise_singleton _ _, ?_⟩
  intro i hi j hj
  rw [List.mem_singleton.1 hj]
  exact Int.lt_of_le_of_lt (hlast i hi) hid

theorem nodup_of_ascending {ids : List Int} (h : ids.Pairwise (· < ·)) : ids.Nodup :=
  h.imp Int.ne_of_lt

theorem nodup_append_one {a : α} (h : rows.Nodup) (ha : a ∉ rows) : (rows ++ [a]).Nodup := by
  rw [← List.concat_eq_append]
  exact h.concat ha

/-- What the last row tells comes before what the others tell. -/
theorem getLast?_filterMap_append_one (f : α → Option β) (a : α) :
    ((rows ++ [a]).filterMap f).getLast? = (f a).or (rows.filterMap f).getLast? := by
  rw [List.getLast?_filterMap, List.getLast?_filterMap, List.reverse_append]
  cases h : f a <;> simp [h]

end Keys

theorem Requests.bagsAllowed_iff {checkedBags carryOnBags : Int} :
    Requests.bagsAllowed checkedBags carryOnBags = true ↔ 0 ≤ checkedBags ∧ 0 ≤ carryOnBags := by
  rw [bagsAllowed, Bool.and_eq_true, decide_eq_true_eq, decide_eq_true_eq]

namespace Tables

/-! ### Ids -/

def userIds (t : Tables) : List Int := t.users.map (·.id)

def driverIds (t : Tables) : List Int := t.drivers.map (·.id)

def requestIds (t : Tables) : List Int := t.requests.map (·.id)

def shiftIds (t : Tables) : List Int := t.shifts.map (·.id)

/-- The ids of the requests that are bound, once for each binding. -/
def boundIds (t : Tables) : List Int := t.bindings.map (·.requestId)

variable {t : Tables} {id : Int} {now : Calendar.WallClock}

theorem user?_isSome_iff : (t.user? id).isSome = true ↔ id ∈ t.userIds := find?_isSome_iff

theorem driver?_isSome_iff : (t.driver? id).isSome = true ↔ id ∈ t.driverIds := find?_isSome_iff

theorem request?_isSome_iff : (t.request? id).isSome = true ↔ id ∈ t.requestIds :=
  find?_isSome_iff

theorem shift?_isSome_iff : (t.shift? id).isSome = true ↔ id ∈ t.shiftIds := find?_isSome_iff

theorem mem_of_request? {r : Request} (h : t.request? id = some r) :
    r ∈ t.requests ∧ r.id = id :=
  ⟨List.mem_of_find?_eq_some h, by simpa using List.find?_some h⟩

theorem mem_of_driver? {d : Driver} (h : t.driver? id = some d) : d ∈ t.drivers ∧ d.id = id :=
  ⟨List.mem_of_find?_eq_some h, by simpa using List.find?_some h⟩

theorem mem_of_shift? {s : Shift} (h : t.shift? id = some s) : s ∈ t.shifts ∧ s.id = id :=
  ⟨List.mem_of_find?_eq_some h, by simpa using List.find?_some h⟩

theorem bindingsOf_eq_nil_iff : t.bindingsOf id = [] ↔ id ∉ t.boundIds := by
  simp only [bindingsOf, boundIds, List.filter_eq_nil_iff, List.mem_map, not_exists, not_and,
    beq_iff_eq]

theorem isBound_iff {shift request : Int} :
    t.isBound shift request = true ↔ (⟨shift, request⟩ : Binding) ∈ t.bindings := by
  simp [isBound]

theorem mem_boundIds_of_isBound {shift request : Int} (h : t.isBound shift request = true) :
    request ∈ t.boundIds :=
  List.mem_map.2 ⟨_, isBound_iff.1 h, rfl⟩

/-! ### The constraints -/

/-- The keys, the references and the rules of the six tables are respected. -/
structure Lawful (t : Tables) : Prop where
  users : t.userIds.Pairwise (· < ·)
  drivers : t.driverIds.Pairwise (· < ·)
  requests : t.requestIds.Pairwise (· < ·)
  shifts : t.shiftIds.Pairwise (· < ·)
  openIds : (t.users.map (·.openId)).Nodup
  boundOnce : t.boundIds.Nodup
  staffedOnce : t.staffings.Nodup
  riders : ∀ r ∈ t.requests, r.userId ∈ t.userIds
  driven : ∀ s ∈ t.shifts, s.driverId ∈ t.driverIds
  bindings : ∀ b ∈ t.bindings, b.shiftId ∈ t.shiftIds ∧ b.requestId ∈ t.requestIds
  staffings : ∀ b ∈ t.staffings, b.shiftId ∈ t.shiftIds ∧ b.staffId ∈ t.userIds
  bags : ∀ r ∈ t.requests, Requests.bagsAllowed r.checkedBags r.carryOnBags = true
  limits : ∀ d ∈ t.drivers, Drivers.isAllowed d.capacity = true

/-- Every id in the tables has been given out. -/
structure Within (t : Tables) (i : Issued) : Prop where
  users : ∀ id ∈ t.userIds, id ≤ i.users
  drivers : ∀ id ∈ t.driverIds, id ≤ i.drivers
  requests : ∀ id ∈ t.requestIds, id ≤ i.requests
  shifts : ∀ id ∈ t.shiftIds, id ≤ i.shifts

namespace Lawful

/-- A request is bound to one shift at most. -/
theorem shift_unique (h : t.Lawful) {request a b : Int} (ha : t.isBound a request = true)
    (hb : t.isBound b request = true) : a = b := by
  have hinj := List.inj_on_of_nodup_map h.boundOnce (isBound_iff.1 ha) (isBound_iff.1 hb) rfl
  exact congrArg Binding.shiftId hinj

theorem nodup_requests (h : t.Lawful) : t.requests.Nodup :=
  List.Nodup.of_map _ (nodup_of_ascending h.requests)

theorem request?_of_mem (h : t.Lawful) {r : Request} (hr : r ∈ t.requests) :
    t.request? r.id = some r :=
  (find?_eq_some_iff_of_nodup (nodup_of_ascending h.requests)).2 ⟨hr, rfl⟩

/-! ### Each change of the tables -/

theorem addRequest {r : Request} {last : Int} (h : t.Lawful)
    (hlast : ∀ id ∈ t.requestIds, id ≤ last) (hid : last < r.id) (hrider : r.userId ∈ t.userIds)
    (hbags : Requests.bagsAllowed r.checkedBags r.carryOnBags = true) :
    (t.addRequest r).Lawful := by
  have hids : (t.addRequest r).requestIds = t.requestIds ++ [r.id] := by
    simp [requestIds, Tables.addRequest]
  refine { h with requests := ?_, riders := ?_, bindings := ?_, bags := ?_ }
  · rw [hids]
    exact pairwise_append_one h.requests hlast hid
  · exact forall_mem_append_one h.riders hrider
  · intro b hb
    rw [hids]
    exact ⟨(h.bindings b hb).1, List.mem_append_left _ (h.bindings b hb).2⟩
  · exact forall_mem_append_one h.bags hbags

end Lawful

theorem filter_id_eq (h : t.Lawful) {r : Request} (hr : t.request? id = some r) :
    t.requests.filter (·.id == id) = [r] := by
  obtain ⟨hmem, hid⟩ := mem_of_request? hr
  have hnodup : (t.requests.filter (·.id == id)).Nodup :=
    h.nodup_requests.filter _
  apply List.perm_singleton.1
  rw [List.perm_ext_iff_of_nodup hnodup (List.nodup_singleton r)]
  intro s
  rw [List.mem_filter, List.mem_singleton, beq_iff_eq]
  constructor
  · rintro ⟨hs, hs'⟩
    exact List.inj_on_of_nodup_map (nodup_of_ascending h.requests) hs hmem (hs'.trans hid.symm)
  · rintro rfl
    exact ⟨hmem, hid⟩

@[simp] theorem requestIds_editRequests {chosen : Request → Bool} {edit : Request → Request}
    (hid : ∀ r, (edit r).id = r.id) :
    (t.editRequests now chosen edit).requestIds = t.requestIds :=
  map_updateWhere fun r _ _ => hid r

theorem request?_editRequests {chosen : Request → Bool} {edit : Request → Request}
    (hid : ∀ r, (edit r).id = r.id) :
    (t.editRequests now chosen edit).request? id =
      (t.request? id).map fun r => if chosen r then { edit r with updatedAt := now } else r :=
  find?_updateWhere fun r => hid r

theorem request?_refreshAll (fs : List Flight.Refresh) :
    (t.refreshAll now fs).request? id = (t.request? id).map (Requests.refreshed now fs) := by
  have hid : ((fun r : Request => r.id == id) ∘ Requests.refreshed now fs)
      = fun r => r.id == id := by
    funext r
    rw [Function.comp_apply, Requests.refreshed_column (·.id) fun _ _ => rfl]
  rw [refreshAll_eq, request?, List.find?_map, hid, ← request?]

theorem shift?_editShift {edit : Shift → Shift} {shift : Int} (hid : ∀ s, (edit s).id = s.id) :
    (t.editShift shift edit).shift? id =
      (t.shift? id).map fun s => if s.id == shift then edit s else s :=
  find?_updateWhere hid

theorem shift?_editShift_self {edit : Shift → Shift} {row : Shift}
    (hid : ∀ s, (edit s).id = s.id) (h : t.shift? id = some row) :
    (t.editShift id edit).shift? id = some (edit row) := by
  rw [shift?_editShift hid, h, Option.map_some, if_pos (beq_iff_eq.2 (mem_of_shift? h).2)]

@[simp] theorem shiftIds_editShift {edit : Shift → Shift} (hid : ∀ s, (edit s).id = s.id) :
    (t.editShift id edit).shiftIds = t.shiftIds :=
  map_updateWhere fun s _ _ => hid s

@[simp] theorem driverIds_setDriver {input : DriverInput} :
    (t.setDriver id input).driverIds = t.driverIds :=
  map_updateWhere fun d _ hd => by simpa [Drivers.ofInput] using (beq_iff_eq.1 hd).symm

@[simp] theorem userIds_setRole {role : Role} : (t.setRole now id role).userIds = t.userIds :=
  map_updateWhere fun _ _ _ => rfl

namespace Lawful

theorem editRequests {chosen : Request → Bool} {edit : Request → Request} (h : t.Lawful)
    (hid : ∀ r, (edit r).id = r.id) (huser : ∀ r, (edit r).userId = r.userId)
    (hbags : ∀ r ∈ t.requests, chosen r = true →
      Requests.bagsAllowed (edit r).checkedBags (edit r).carryOnBags = true) :
    (t.editRequests now chosen edit).Lawful := by
  have hids : (t.editRequests now chosen edit).requestIds = t.requestIds :=
    requestIds_editRequests hid
  refine { h with requests := ?_, riders := ?_, bindings := ?_, bags := ?_ }
  · rw [hids]
    exact h.requests
  · refine forall_mem_updateWhere h.riders ?_
    intro r hr _
    rw [huser]
    exact h.riders r hr
  · intro b hb
    rw [hids]
    exact h.bindings b hb
  · exact forall_mem_updateWhere h.bags hbags

theorem setStatus (h : t.Lawful) (status : RequestStatus) :
    (t.setStatus now id status).Lawful :=
  h.editRequests (fun _ => rfl) (fun _ => rfl) fun r hr _ => h.bags r hr

theorem publishOn (h : t.Lawful) : (t.publishOn now id).Lawful :=
  h.editRequests (fun _ => rfl) (fun _ => rfl) fun r hr _ => h.bags r hr

theorem editDetails {details : Request} (h : t.Lawful)
    (hbags : Requests.bagsAllowed details.checkedBags details.carryOnBags = true) :
    (t.editDetails now details).Lawful :=
  h.editRequests (fun _ => rfl) (fun _ => rfl) fun _ _ _ => hbags

theorem refreshAll (h : t.Lawful) (fs : List Flight.Refresh) : (t.refreshAll now fs).Lawful := by
  refine refreshAll_induction ?_ h
  intro t f _ h
  exact h.editRequests (fun _ => rfl) (fun _ => rfl) fun r hr _ => h.bags r hr

theorem addShift {s : Shift} {last : Int} (h : t.Lawful) (hlast : ∀ id ∈ t.shiftIds, id ≤ last)
    (hid : last < s.id) (hdriver : s.driverId ∈ t.driverIds) : (t.addShift s).Lawful := by
  have hids : (t.addShift s).shiftIds = t.shiftIds ++ [s.id] := by
    simp [shiftIds, Tables.addShift]
  refine { h with shifts := ?_, driven := ?_, bindings := ?_, staffings := ?_ }
  · rw [hids]
    exact pairwise_append_one h.shifts hlast hid
  · exact forall_mem_append_one h.driven hdriver
  · intro b hb
    rw [hids]
    exact ⟨List.mem_append_left _ (h.bindings b hb).1, (h.bindings b hb).2⟩
  · intro b hb
    rw [hids]
    exact ⟨List.mem_append_left _ (h.staffings b hb).1, (h.staffings b hb).2⟩

theorem editShift {edit : Shift → Shift} (h : t.Lawful) (hid : ∀ s, (edit s).id = s.id)
    (hdriver : ∀ s ∈ t.shifts, (edit s).driverId ∈ t.driverIds) : (t.editShift id edit).Lawful := by
  have hids : (t.editShift id edit).shiftIds = t.shiftIds := shiftIds_editShift hid
  refine { h with shifts := ?_, driven := ?_, bindings := ?_, staffings := ?_ }
  · rw [hids]
    exact h.shifts
  · exact forall_mem_updateWhere h.driven fun s hs _ => hdriver s hs
  · intro b hb
    rw [hids]
    exact h.bindings b hb
  · intro b hb
    rw [hids]
    exact h.staffings b hb

theorem publishShift (h : t.Lawful) : (t.publishShift id).Lawful :=
  h.editShift (fun _ => rfl) h.driven

theorem patchShift {patch : ShiftPatch} (h : t.Lawful) (hdriver : Shifts.DriverExists t patch) :
    (t.editShift id patch.apply).Lawful := by
  refine h.editShift (fun _ => rfl) ?_
  intro s hs
  cases hd : patch.driverId with
  | none =>
    simp only [ShiftPatch.apply, hd, Option.getD_none]
    exact h.driven s hs
  | some d =>
    simp only [ShiftPatch.apply, hd, Option.getD_some]
    exact driver?_isSome_iff.1 (hdriver d hd)

theorem addDriver {d : Driver} {last : Int} (h : t.Lawful) (hlast : ∀ id ∈ t.driverIds, id ≤ last)
    (hid : last < d.id) (hlimits : Drivers.isAllowed d.capacity = true) :
    (t.addDriver d).Lawful := by
  have hids : (t.addDriver d).driverIds = t.driverIds ++ [d.id] := by
    simp [driverIds, Tables.addDriver]
  refine { h with drivers := ?_, driven := ?_, limits := ?_ }
  · rw [hids]
    exact pairwise_append_one h.drivers hlast hid
  · intro s hs
    rw [hids]
    exact List.mem_append_left _ (h.driven s hs)
  · exact forall_mem_append_one h.limits hlimits

theorem setDriver {input : DriverInput} (h : t.Lawful)
    (hlimits : Drivers.isAllowed input.capacity = true) : (t.setDriver id input).Lawful := by
  refine { h with drivers := ?_, driven := ?_, limits := ?_ }
  · rw [driverIds_setDriver]
    exact h.drivers
  · intro s hs
    rw [driverIds_setDriver]
    exact h.driven s hs
  · exact forall_mem_updateWhere h.limits fun _ _ _ => hlimits

theorem setRole {role : Role} (h : t.Lawful) : (t.setRole now id role).Lawful := by
  have hids : (t.setRole now id role).userIds = t.userIds := userIds_setRole
  refine { h with users := ?_, openIds := ?_, riders := ?_, staffings := ?_ }
  · rw [hids]
    exact h.users
  · have hopen : (t.setRole now id role).users.map (·.openId) = t.users.map (·.openId) :=
      map_updateWhere fun _ _ _ => rfl
    rw [hopen]
    exact h.openIds
  · intro r hr
    rw [hids]
    exact h.riders r hr
  · intro b hb
    rw [hids]
    exact h.staffings b hb

theorem bind {shift request : Int} (h : t.Lawful) (hfree : request ∉ t.boundIds)
    (hshift : shift ∈ t.shiftIds) (hrequest : request ∈ t.requestIds) :
    (t.bind shift request).Lawful := by
  refine { h with boundOnce := ?_, bindings := ?_ }
  · have hids : (t.bind shift request).boundIds = t.boundIds ++ [request] := by
      simp [boundIds, Tables.bind]
    rw [hids]
    exact nodup_append_one h.boundOnce hfree
  · exact forall_mem_append_one h.bindings ⟨hshift, hrequest⟩

theorem unbind {shift request : Int} (h : t.Lawful) : (t.unbind shift request).Lawful where
  __ := h
  boundOnce := (List.filter_sublist.map _).nodup h.boundOnce
  bindings b hb := h.bindings b (List.mem_filter.1 hb).1

theorem addStaff {shift user : Int} (h : t.Lawful) (hnew : ⟨shift, user⟩ ∉ t.staffings)
    (hshift : shift ∈ t.shiftIds) (huser : user ∈ t.userIds) : (t.addStaff shift user).Lawful where
  __ := h
  staffedOnce := nodup_append_one h.staffedOnce hnew
  staffings := forall_mem_append_one h.staffings ⟨hshift, huser⟩

theorem removeStaff {shift user : Int} (h : t.Lawful) : (t.removeStaff shift user).Lawful where
  __ := h
  staffedOnce := h.staffedOnce.filter _
  staffings b hb := h.staffings b (List.mem_filter.1 hb).1

end Lawful
end Tables

end ShuttleDesk
