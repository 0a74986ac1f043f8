/-
  ShuttleDesk/Proofs/Desk/LoadHistory.lean
  ========================================
  What a shift carries is decided by the journal of a run, and by few of its entries:
  those in which something is bound to a shift or unbound, or staff is added or removed.

  The load is read off the tables, and it joins the bindings with rows of requests that
  others write.  Riders write bags, but only those of pending requests, and a pending
  request is not bound; the refreshes of flights and the changes of states do not write
  bags at all.  So the bags of a bound request stay those that it had when it was bound,
  and these are in the journal.
-/
import ShuttleDesk.Proofs.Desk.Overload
import ShuttleDesk.Proofs.Desk.Progress

namespace ShuttleDesk

/-- What a request adds to the load of its shift. -/
def Request.bags (r : Request) : Int × Int := (r.checkedBags, r.carryOnBags)

namespace Tables

variable {t t' : Tables} {now : Calendar.WallClock} {shift request : Int}

/-! ### Equal loads -/

theorem filter_id_eq_toList (h : t.Lawful) (id : Int) :
    t.requests.filter (·.id == id) = (t.request? id).toList := by
  cases hr : t.request? id with
  | some r => exact filter_id_eq h hr
  | none =>
    rw [request?, List.find?_eq_none] at hr
    exact List.filter_eq_nil_iff.2 hr

theorem map_bags_boundRows (h : t.Lawful) :
    (t.boundRows shift).map Request.bags = (t.bindingsOn shift).flatMap fun b =>
      ((t.request? b.requestId).map Request.bags).toList := by
  simp only [boundRows, filter_id_eq_toList h, List.map_flatMap, Option.toList_map]

theorem mem_map_id_requestsOn (h : t.Lawful) :
    request ∈ (t.requestsOn shift).map (·.id) ↔ t.isBound shift request = true := by
  simp only [requestsOn, List.mem_map, List.mem_filter]
  constructor
  · rintro ⟨r, ⟨-, hbound⟩, rfl⟩
    exact hbound
  · intro hbound
    obtain ⟨r, hr, rfl⟩ := List.mem_map.1 (h.bindings _ (isBound_iff.1 hbound)).2
    exact ⟨r, ⟨hr, hbound⟩, rfl⟩

theorem nodup_map_id_requestsOn (h : t.Lawful) : ((t.requestsOn shift).map (·.id)).Nodup :=
  (List.filter_sublist.map _).nodup (nodup_of_ascending h.requests)

/-- Sums of bags depend on the bags alone. -/
theorem total_of_map_bags {rs ss : List Request} (h : rs.map Request.bags = ss.map Request.bags) :
    total (·.checkedBags) rs = total (·.checkedBags) ss ∧
    total (·.carryOnBags) rs = total (·.carryOnBags) ss := by
  have hpart : ∀ part : Int × Int → Int,
      rs.map (fun r => part r.bags) = ss.map fun r => part r.bags := by
    intro part
    have hpart := congrArg (List.map part) h
    rw [List.map_map, List.map_map] at hpart
    exact hpart
  exact ⟨total_of_map_eq (hpart Prod.fst), total_of_map_eq (hpart Prod.snd)⟩

/-- The load depends on the bridges, and on the bags of what is bound. -/
theorem load_congr (h : t.Lawful) (h' : t'.Lawful) (hbindings : t'.bindings = t.bindings)
    (hstaffings : t'.staffings = t.staffings)
    (hbags : ∀ id ∈ t.boundIds,
      (t'.request? id).map Request.bags = (t.request? id).map Request.bags) (shift : Int) :
    t'.load shift = t.load shift := by
  have hon : t'.bindingsOn shift = t.bindingsOn shift := by rw [bindingsOn, hbindings, bindingsOn]
  have hrows : (t'.boundRows shift).map Request.bags = (t.boundRows shift).map Request.bags := by
    rw [map_bags_boundRows h, map_bags_boundRows h', hon]
    apply List.flatMap_congr
    intro b hb
    rw [hbags b.requestId (List.mem_map_of_mem (List.mem_filter.1 hb).1)]
  obtain ⟨hchecked, hcarryOn⟩ := total_of_map_bags hrows
  rw [load, hon, hstaffings, hchecked, hcarryOn, ← load]

end Tables

namespace Desk

open Tables

variable {w w' : World} {c : Call} {o : Outcome}

/-! ### Histories of the staff -/

/-- A user is added to the staff of a shift or removed from it. -/
inductive StaffEvent where
  | added
  | removed
  deriving DecidableEq, Repr

/-- What a call with an outcome does to a place on the staff of a shift. -/
def staffEvent? (b : Staffing) : Call → Outcome → Option StaffEvent
  | .assignStaff shift user, .ok _ => if ⟨shift, user⟩ = b then some .added else none
  | .removeStaff shift user, .ok _ => if ⟨shift, user⟩ = b then some .removed else none
  | _, _ => none

/-- How a user was added to the staff of a shift and removed by the calls of a journal. -/
def staffHistory (b : Staffing) (es : List Entry) : List StaffEvent :=
  es.filterMap fun e => staffEvent? b e.call e.outcome

/-- The request as it is after the call that binds it. -/
def boundRow? (request : Int) (e : Entry) : Option Request :=
  match bindingEvent? request e.call e.outcome with
  | some (.bound _) => e.after.tables.request? request
  | _ => none

/-- The request as it was when it was bound for the last time. -/
def rowWhenBound (request : Int) (es : List Entry) : Option Request :=
  (es.filterMap (boundRow? request)).getLast?

/-- Only such calls bind or unbind something. -/
def Call.rebinds : Call → Bool
  | .assign _ _ | .unassign _ _ | .assignStaff _ _ | .removeStaff _ _ => true
  | _ => false

/-! ### One call -/

theorem Effect.mem_staffings_iff (h : Effect w c o w') (b : Staffing) :
    b ∈ w'.tables.staffings ↔
      match staffEvent? b c o with
      | some .added => True
      | some .removed => False
      | none => b ∈ w.tables.staffings := by
  cases h with
  | stopped kept =>
    rw [kept.tables]
    cases c <;> rfl
  | viewed view => cases c <;> first | rfl | cases view
  | @staffAdded shift user =>
    by_cases hb : (⟨shift, user⟩ : Staffing) = b
    · simp [staffEvent?, addStaff, hb]
    · simp [staffEvent?, addStaff, hb, Ne.symm hb]
  | @staffKept shift user u user? staffLike old =>
    by_cases hb : (⟨shift, user⟩ : Staffing) = b
    · simp [staffEvent?, hb, hb ▸ old]
    · simp [staffEvent?, hb]
  | @staffRemoved shift user =>
    by_cases hb : (⟨shift, user⟩ : Staffing) = b
    · simp [staffEvent?, Tables.removeStaff, hb]
    · simp [staffEvent?, Tables.removeStaff, hb, Ne.symm hb]
  | synced set inCalendar =>
    rw [World.withTables_tables, refreshAll_eq]
    rfl
  | _ => rfl

/-- The bags of a request that is not pending stay as they are. -/
theorem Effect.bags_eq (h : Effect w c o w') {id : Int} {r : Request}
    (hr : w.tables.request? id = some r) (hpending : r.status ≠ .pending) :
    (w'.tables.request? id).map Request.bags = some r.bags := by
  -- what edits of rows leave of the bags
  have hedit : ∀ {t : Tables} {chosen : Request → Bool} (edit : Request → Request),
      (∀ r, (edit r).id = r.id) → t.request? id = some r →
      (chosen r = true → (edit r).bags = r.bags) →
      ((t.editRequests w.now chosen edit).request? id).map Request.bags = some r.bags := by
    intro t chosen edit hid hr hbags
    rw [request?_editRequests hid, hr]
    by_cases hchosen : chosen r = true
    · rw [Option.map_some, if_pos hchosen]
      exact congrArg some (hbags hchosen)
    · rw [Option.map_some, if_neg hchosen]
      rfl
  cases h with
  | stopped kept => rw [kept.tables, hr, Option.map_some]
  | requestMade =>
    rw [World.withTables_tables, request?, addRequest, List.find?_append, ← request?, hr]
    rfl
  | @detailsSaved rider request edit change row after stored owned pending valid changeRead timed =>
    refine hedit (Requests.withDetails after) (fun _ => rfl) hr fun hchosen => ?_
    -- only a pending row is written
    obtain ⟨hrow, -⟩ := Option.filter_eq_some_iff.1 owned
    have hid : id = request := by
      rw [← (mem_of_request? hr).2, beq_iff_eq.1 hchosen, RequestChange.after?_id timed,
        (mem_of_request? hrow).2]
    rw [hid, hrow, Option.some.injEq] at hr
    exact absurd (hr ▸ pending) hpending
  | bound => exact hedit (fun r => { r with status := .assigned }) (fun _ => rfl) hr fun _ => rfl
  | unbound => exact hedit (fun r => { r with status := .pending }) (fun _ => rfl) hr fun _ => rfl
  | published =>
    exact hedit (fun r => { r with status := .published }) (fun _ => rfl) hr fun _ => rfl
  | synced =>
    rw [World.withTables_tables, request?_refreshAll, hr, Option.map_some, Option.map_some,
      Requests.refreshed_column Request.bags fun _ _ => rfl]
  | _ => exact congrArg _ hr

/-- The bags of what is bound stay as they are. -/
theorem Effect.bags_of_bound (h : Effect w c o w') (hw : w.Sound) (ht : w.tables.Settled)
    {b : Binding} (hb : b ∈ w.tables.bindings) :
    (w'.tables.request? b.requestId).map Request.bags
      = (w.tables.request? b.requestId).map Request.bags := by
  obtain ⟨r, hr, hpending⟩ := ht.exists_request_of_bound hw.lawful hb
  rw [h.bags_eq hr hpending, hr, Option.map_some]

/-- Calls of other kinds leave the load of every shift as it is. -/
theorem Effect.load_eq (h : Effect w c o w') (hw : w.Sound) (ht : w.tables.Settled)
    (hc : c.rebinds = false) (shift : Int) : w'.tables.load shift = w.tables.load shift := by
  obtain ⟨hbindings, hstaffings⟩ : w'.tables.bindings = w.tables.bindings ∧
      w'.tables.staffings = w.tables.staffings := by
    cases h with
    | stopped kept => simp only [kept.tables, and_self]
    | synced =>
      rw [World.withTables_tables, refreshAll_eq]
      exact ⟨rfl, rfl⟩
    | _ => first | exact ⟨rfl, rfl⟩ | cases hc
  refine load_congr hw.lawful (h.sound hw).lawful hbindings hstaffings ?_ shift
  intro id hid
  obtain ⟨b, hb, rfl⟩ := List.mem_map.1 hid
  exact h.bags_of_bound hw ht hb

/-! ### Runs -/

/-- What the last entry of a history says about the binding that it leads to. -/
theorem Alternates.eq_some_iff {a b : Option Int} {es : List BindingEvent} (h : Alternates a es b)
    (shift : Int) : b = some shift ↔ es.getLast?.or (a.map .bound) = some (.bound shift) := by
  induction h with
  | nil => simp
  | @bound s es b rest ih =>
    rw [ih, List.getLast?_cons]
    cases es.getLast? <;> simp
  | @unbound s es b rest ih =>
    rw [ih, List.getLast?_cons]
    cases es.getLast? <;> simp

/-- What the entries so far tell of the bags of bound requests and of the staff. -/
structure LoadTold (w : World) (es : List Entry) : Prop where
  sound : w.Sound
  settled : w.tables.Settled
  bags : ∀ r ∈ w.tables.requests, ∀ shift, w.tables.isBound shift r.id = true →
    ∃ row, rowWhenBound r.id es = some row ∧ row.id = r.id ∧ row.bags = r.bags
  staff : ∀ b, b ∈ w.tables.staffings ↔ (staffHistory b es).getLast? = some .added

theorem LoadTold.step {es : List Entry} {e : Entry} (h : LoadTold w es)
    (he : Effect w e.call e.outcome e.after) : LoadTold e.after (es ++ [e]) where
  sound := he.sound h.sound
  settled := he.settled h.sound h.settled
  bags := by
    intro r hr shift hbound
    have hlawful := (he.sound h.sound).lawful
    rw [rowWhenBound, getLast?_filterMap_append_one]
    cases hevent : bindingEvent? r.id e.call e.outcome with
    | some event =>
      -- the event led to the binding
      have hlast := ((he.alternates h.sound r.id).eq_some_iff shift).1
        ((boundTo_eq_some_iff hlawful).2 hbound)
      rw [hevent] at hlast
      obtain rfl : event = .bound shift := by simpa using hlast
      have hrow : boundRow? r.id e = some r := by
        simp only [boundRow?, hevent]
        exact hlawful.request?_of_mem hr
      exact ⟨r, by rw [hrow]; rfl, rfl, rfl⟩
    | none =>
      have hnone : boundRow? r.id e = none := by simp only [boundRow?, hevent]
      rw [he.isBound_eq hevent] at hbound
      -- the row was bound before, with the same bags
      obtain ⟨r₀, hr₀, hpending⟩ :=
        h.settled.exists_request_of_bound h.sound.lawful (isBound_iff.1 hbound)
      obtain ⟨hmem, hid⟩ := mem_of_request? hr₀
      have hbags := he.bags_eq hr₀ hpending
      rw [hlawful.request?_of_mem hr, Option.map_some, Option.some.injEq] at hbags
      obtain ⟨row, hrow, hrowId, hrowBags⟩ := h.bags r₀ hmem shift (by rw [hid]; exact hbound)
      rw [hid] at hrow hrowId
      rw [hnone, Option.none_or]
      exact ⟨row, hrow, hrowId, hrowBags.trans hbags.symm⟩
  staff := by
    intro b
    rw [he.mem_staffings_iff b, staffHistory, getLast?_filterMap_append_one, ← staffHistory,
      h.staff b]
    rcases staffEvent? b e.call e.outcome with _ | _ | _ <;> simp

theorem LoadTold.worldAfter (timeout : Int) (cs : List TimedCall) {w : World} (h : IsFresh w)
    (hnone : w.tables.staffings = []) :
    LoadTold (worldAfter timeout cs w) (journal timeout cs w) := by
  have hbegin : LoadTold w [] := by
    refine ⟨h.sound, h.settled, ?_, ?_⟩
    · simp [h.noRequests]
    · simp [hnone, staffHistory]
  exact journal_induction
    (fun _ _ _ h => ⟨⟨h.sound.lawful, h.sound.within⟩, h.settled, h.bags, h.staff⟩)
    (fun he h => h.step he) cs hbegin

/-- The requests on a shift as they were when they were bound, and what has changed since. -/
theorem LoadTold.exists_rows {es : List Entry} (h : LoadTold w es) (shift : Int) :
    ∃ rows : List Request,
      rows.map (·.id) = (w.tables.requestsOn shift).map (·.id) ∧
      rows.map Request.bags = (w.tables.requestsOn shift).map Request.bags ∧
      ∀ row ∈ rows, rowWhenBound row.id es = some row := by
  have htold : ∀ r ∈ w.tables.requestsOn shift, ∃ row,
      (rowWhenBound r.id es).getD r = row ∧ rowWhenBound r.id es = some row ∧
      row.id = r.id ∧ row.bags = r.bags := by
    intro r hr
    obtain ⟨hmem, hbound⟩ := List.mem_filter.1 hr
    obtain ⟨row, hrow, hid, hbags⟩ := h.bags r hmem shift hbound
    exact ⟨row, by rw [hrow, Option.getD_some], hrow, hid, hbags⟩
  refine ⟨(w.tables.requestsOn shift).map fun r => (rowWhenBound r.id es).getD r, ?_, ?_, ?_⟩
  · rw [List.map_map]
    apply List.map_congr_left
    intro r hr
    obtain ⟨row, hget, -, hid, -⟩ := htold r hr
    rw [Function.comp_apply, hget, hid]
  · rw [List.map_map]
    apply List.map_congr_left
    intro r hr
    obtain ⟨row, hget, -, -, hbags⟩ := htold r hr
    rw [Function.comp_apply, hget, hbags]
  · intro row hmem
    obtain ⟨r, hr, rfl⟩ := List.mem_map.1 hmem
    obtain ⟨row, hget, hrow, hid, -⟩ := htold r hr
    rw [hget, hid, hrow]

/-- The load of a shift, as the journal has it.  It counts the requests whose last binding or
unbinding bound them to the shift, and the users whose last place on the staff was not taken from
them, and it adds up the bags that these requests had when they were bound.  So no call but those
that bind and unbind changes the load of any shift. -/
theorem load_of_history (timeout : Int) (cs : List TimedCall) (w : World) (h : IsFresh w)
    (hnone : w.tables.staffings = []) (shift : Int) :
    let after := worldAfter timeout cs w
    let entries := journal timeout cs w
    (∃ (rows : List Request) (staff : List Int),
      (rows.map (·.id)).Nodup ∧
      (∀ request, request ∈ rows.map (·.id) ↔
        (bindingHistory request entries).getLast? = some (.bound shift)) ∧
      (∀ row ∈ rows, rowWhenBound row.id entries = some row) ∧
      staff.Nodup ∧
      (∀ user, user ∈ staff ↔
        (staffHistory ⟨shift, user⟩ entries).getLast? = some .added) ∧
      ∀ u : World, u.isOpen = true → u.tables = after.tables → Shifts.load shift u =
        (.ok {
          boundRequests := rows.length
          staff := staff.length
          checkedBags := total (·.checkedBags) rows
          carryOnBags := total (·.carryOnBags) rows }, u)) ∧
    ∀ c : TimedCall, c.call.rebinds = false →
      ∀ s, (c.make timeout after).after.tables.load s = after.tables.load s := by
  intro after entries
  have htold : LoadTold after entries := .worldAfter timeout cs h hnone
  constructor
  case left =>
    have hlawful := htold.sound.lawful
    have halternates := alternates_journal timeout cs h.sound
    obtain ⟨rows, hids, hbags, hrows⟩ := htold.exists_rows shift
    obtain ⟨hchecked, hcarryOn⟩ := total_of_map_bags hbags
    refine ⟨rows, (after.tables.staffOf shift).map (·.id), ?_, ?_, hrows,
      nodup_map_id_staffOf hlawful, ?_, ?_⟩
    · rw [hids]
      exact nodup_map_id_requestsOn hlawful
    · intro request
      have hunbound : w.tables.boundTo request = none := by
        simp [boundTo, bindingsOf, h.noBindings]
      rw [hids, mem_map_id_requestsOn hlawful, ← boundTo_eq_some_iff hlawful,
        (halternates request).eq_some_iff, hunbound, Option.map_none, Option.or_none]
    · intro user
      rw [mem_map_id_staffOf hlawful, htold.staff]
    · intro u hopen htables
      have hlength := congrArg List.length hids
      rw [List.length_map, List.length_map] at hlength
      rw [Shifts.load_ok_iff.2 ⟨hopen, rfl, rfl⟩, htables, load_eq hlawful, hlength, hchecked,
        hcarryOn, List.length_map]
  case right =>
    intro c hc s
    have hmoment : (after.atMoment c.moment).Sound := ⟨htold.sound.lawful, htold.sound.within⟩
    exact (c.make_effect timeout after).load_eq hmoment htold.settled hc s

/-- The request of the rebooking comes to a shift with staff. -/
def staffedRebooking : List TimedCall := rebooking ++ [.undisturbed (.assignStaff 1 2)]

theorem load_of_staffedRebooking :
    let after := worldAfter 0 staffedRebooking smallDesk
    let entries := journal 0 staffedRebooking smallDesk
    IsFresh smallDesk ∧ smallDesk.tables.staffings = [] ∧
    (∃ (rows : List Request) (staff : List Int), 1 ∈ rows.map (·.id) ∧ 2 ∈ staff ∧
      (∀ row ∈ rows, rowWhenBound row.id entries = some row) ∧
      Shifts.load 1 after = (.ok {
        boundRequests := rows.length
        staff := staff.length
        checkedBags := total (·.checkedBags) rows
        carryOnBags := total (·.carryOnBags) rows }, after)) ∧
    ((TimedCall.undisturbed (.publishShift 1)).make 0 after).after.tables.load 1 = ⟨1, 1, 1, 2⟩ := by
  intro after entries
  obtain ⟨⟨rows, staff, -, hriders, hrows, -, hstaff, hload⟩, hkept⟩ :=
    load_of_history 0 staffedRebooking smallDesk isFresh_smallDesk rfl 1
  refine ⟨isFresh_smallDesk, rfl, ⟨rows, staff, ?_, ?_, hrows, ?_⟩, ?_⟩
  · exact (hriders 1).2 (by decide +kernel)
  · exact (hstaff 2).2 (by decide +kernel)
  · exact hload after (by decide +kernel) rfl
  · rw [hkept _ rfl]
    decide +kernel

end Desk
end ShuttleDesk
