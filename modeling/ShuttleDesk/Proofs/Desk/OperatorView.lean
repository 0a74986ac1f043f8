/-
  ShuttleDesk/Proofs/Desk/OperatorView.lean
  =========================================
  What operators see: every shift with its driver, its requests and its staff, in the
  order of departures, and the requests that are still pending.  Together the two views
  show every request once, since a request is bound, to one shift, exactly if it is not
  pending.  What a shift carries is counted by other queries, over the bindings, and the
  counts are those of the rows that are shown.

  The departures are sorted by a stable sort of rows that stand in the order of ids, so
  that of two shifts with one departure the older comes first.

  The requests of the desk can always be read back: a pickup that lies in the calendar
  is later than its arrival.  A departure need not be in the calendar, and one that is
  not keeps the whole view from being shown.
-/
import ShuttleDesk.Proofs.Desk.Overload
import ShuttleDesk.Proofs.Desk.RiderView
import ShuttleDesk.Proofs.Desk.Timing

namespace ShuttleDesk

namespace Desk

open Procedure Statement Tables

/-! ### Requests can always be shown -/

/-- Every request can be shown. -/
def AllShowable (t : Tables) : Prop := ∀ r ∈ t.requests, r.IsShowable

theorem Effect.allShowable {w w' : World} {c : Call} {o : Outcome} (h : Effect w c o w')
    (ht : AllShowable w.tables) : AllShowable w'.tables := by
  intro r' hr'
  rcases h.details_of_mem hr' with ⟨r, hr, hdetails⟩ | ⟨-, hwrites⟩
  · exact (ht r hr).of_details hdetails
  generalize hdetails : r'.details = values at hwrites
  cases hwrites with
  | made arrivalRead timed =>
    obtain ⟨pickup, hpickup, hvalues⟩ := Option.bind_eq_some_iff.1 timed
    cases hvalues
    simp only [Request.details, NewRequest.mk.injEq] at hdetails
    obtain ⟨-, -, hterminal, -, -, harrival, hbuffer, hstored⟩ := hdetails
    refine .of_time? ?_ harrival hstored (hbuffer ▸ hpickup)
    rw [hbuffer, hterminal]
  | edited changeRead row? timed =>
    exact (RequestChange.isShowable_after? (ht _ row?) timed).of_details hdetails
  | @refreshed network base date b f r set found =>
    obtain ⟨flightNo, hlookup⟩ := lookup_of_mem_refreshesOf found
    obtain ⟨hbuffer, htime⟩ := time?_of_lookup hlookup
    have hrefreshed : (Requests.withRefresh f r).IsShowable := .of_time? hbuffer rfl rfl htime
    exact hrefreshed.of_details hdetails

theorem allShowable_worldAfter (timeout : Int) (cs : List TimedCall) {w : World} (h : IsFresh w) :
    AllShowable (worldAfter timeout cs w).tables := by
  apply worldAfter_induction (p := fun w => AllShowable w.tables)
  · intro w m hw
    exact hw
  · intro w w' c o heffect hw
    exact heffect.allShowable hw
  · intro r hr
    rw [h.noRequests] at hr
    cases hr

/-! ### The entries -/

/-- A shift with everything bound to it, read off the tables. -/
def detailOf (t : Tables) (s : Shift) : ShiftDetail where
  shift := s
  driver := t.driver? s.driverId
  requests := t.requestsOn s.id
  staff := t.staffOf s.id

variable {w : World}

theorem shiftDetail_run (ho : w.isOpen = true) (hshow : AllShowable w.tables) (s : Shift) :
    shiftDetail s w = (.ok (detailOf w.tables s), w) := by
  have hreadable : (w.tables.requestsOn s.id).all Request.isReadable = true := by
    rw [List.all_eq_true]
    intro r hr
    exact (hshow r (List.mem_filter.1 hr).1).readable
  have hrequests : (liftM (Requests.listOn s.id) : Operation (List Request)) w
      = (.ok (w.tables.requestsOn s.id), w) := by
    have hrun := lift_readable_run ho (·.requestsOn s.id) Request.isReadable
    rw [if_pos hreadable] at hrun
    exact hrun
  have hquery : ∀ {α : Type} (f : Tables → α),
      (liftM (query f) : Operation α) w = (.ok (f w.tables), w) :=
    fun f => lift_ok_iff.2 (query_run ho)
  have hdriver : (liftM (Drivers.find? s.driverId) : Operation (Option Driver)) w
      = (.ok (w.tables.driver? s.driverId), w) := hquery _
  have hstaff : (liftM (Staffings.listOf s.id) : Operation (List User)) w
      = (.ok (w.tables.staffOf s.id), w) := hquery _
  simp only [shiftDetail, bind_run, hdriver, hrequests, hstaff]
  rfl

theorem shiftDetails_run (ho : w.isOpen = true) (hshow : AllShowable w.tables) (ss : List Shift) :
    shiftDetails ss w = (.ok (ss.map (detailOf w.tables)), w) := by
  induction ss with
  | nil => rfl
  | cons s ss ih =>
    simp only [shiftDetails, bind_run, shiftDetail_run ho hshow, ih]
    rfl

/-- The shifts in the order of their departures. -/
def departures (t : Tables) : List Shift := t.shifts.mergeSort Shifts.departsBefore

theorem departures_perm (t : Tables) : (departures t).Perm t.shifts := List.mergeSort_perm _ _

theorem dashboard_run (ho : w.isOpen = true) (hshow : AllShowable w.tables) :
    dashboard w = (if w.tables.shifts.all Shift.isReadable
      then .ok ((departures w.tables).map (detailOf w.tables)) else .error .timeOverflow, w) := by
  have hlist : (liftM Shifts.list : Operation (List Shift)) w = _ :=
    lift_readable_run ho departures Shift.isReadable
  rw [(departures_perm w.tables).all_eq] at hlist
  rw [dashboard, bind_run, hlist]
  by_cases hreadable : w.tables.shifts.all Shift.isReadable = true
  · rw [if_pos hreadable, if_pos hreadable]
    exact shiftDetails_run ho hshow _
  · rw [if_neg hreadable, if_neg hreadable]

theorem pendingRequests_run (ho : w.isOpen = true) (hshow : AllShowable w.tables) :
    pendingRequests w = (.ok (w.tables.requestsIn .pending), w) := by
  have hreadable : (w.tables.requestsIn .pending).all Request.isReadable = true := by
    rw [List.all_eq_true]
    intro r hr
    exact (hshow r (List.mem_filter.1 hr).1).readable
  have hrun := lift_readable_run ho (·.requestsIn .pending) Request.isReadable
  rw [if_pos hreadable] at hrun
  exact hrun

/-! ### The order of the entries -/

theorem departsBefore_trans (a b c : Shift) (hab : Shifts.departsBefore a b = true)
    (hbc : Shifts.departsBefore b c = true) : Shifts.departsBefore a c = true := by
  simp only [Shifts.departsBefore, decide_eq_true_eq] at *
  exact Int.le_trans hab hbc

theorem departsBefore_total (a b : Shift) :
    (Shifts.departsBefore a b || Shifts.departsBefore b a) = true := by
  simp only [Shifts.departsBefore, Bool.or_eq_true, decide_eq_true_eq]
  exact Int.le_total _ _

/-- Shifts with the same departure stay in the order of the table. -/
theorem filter_departures (t : Tables) (k : Int) :
    (departures t).filter (·.departureTime.seconds == k)
      = t.shifts.filter (·.departureTime.seconds == k) := by
  have hsame : (t.shifts.filter (·.departureTime.seconds == k)).Pairwise
      fun a b => Shifts.departsBefore a b = true := by
    rw [List.pairwise_iff_forall_sublist]
    intro a b hab
    have ha := hab.subset List.mem_cons_self
    have hb := hab.subset (List.mem_cons_of_mem a List.mem_cons_self)
    have hak := beq_iff_eq.1 (List.mem_filter.1 ha).2
    have hbk := beq_iff_eq.1 (List.mem_filter.1 hb).2
    simp [Shifts.departsBefore, hak, hbk]
  have hsublist := (List.sublist_mergeSort departsBefore_trans departsBefore_total hsame
    List.filter_sublist).filter (·.departureTime.seconds == k)
  simp only [List.filter_filter, Bool.and_self] at hsublist
  exact (hsublist.eq_of_length ((departures_perm t).filter _).symm.length_eq).symm

/-- The shifts stand in the order of departures, and of the same departure in that of ids. -/
theorem pairwise_departures {t : Tables} (hl : t.Lawful) :
    (departures t).Pairwise fun a b => a.departureTime.seconds < b.departureTime.seconds ∨
      (a.departureTime = b.departureTime ∧ a.id < b.id) := by
  have hids : t.shifts.Pairwise fun a b => a.id < b.id := List.pairwise_map.1 hl.shifts
  have hle := List.pairwise_mergeSort departsBefore_trans departsBefore_total t.shifts
  rw [List.pairwise_iff_forall_sublist] at hids hle ⊢
  intro a b hab
  have hdeparts : a.departureTime.seconds ≤ b.departureTime.seconds := by
    simpa [Shifts.departsBefore] using hle hab
  rcases Int.lt_or_eq_of_le hdeparts with hlt | heq
  · exact .inl hlt
  · right
    have hpair := hab.filter (·.departureTime.seconds == b.departureTime.seconds)
    rw [filter_departures, List.filter_eq_self.2 (by simp [heq])] at hpair
    refine ⟨?_, hids (hpair.trans List.filter_sublist)⟩
    cases ha : a.departureTime
    cases hb : b.departureTime
    simp_all

/-! ### Every request once -/

theorem mem_requestsIn {t : Tables} {r : Request} {status : RequestStatus} :
    r ∈ t.requestsIn status ↔ r ∈ t.requests ∧ r.status = status := by
  simp only [requestsIn, List.mem_filter, beq_iff_eq]

/-- No request is on two shifts. -/
theorem nodup_flatMap_requestsOn {t : Tables} (hl : t.Lawful) :
    (t.shifts.flatMap fun s => t.requestsOn s.id).Nodup := by
  have hshifts : t.shifts.Pairwise fun a b => a.id < b.id := List.pairwise_map.1 hl.shifts
  rw [List.nodup_flatMap]
  refine ⟨fun s _ => hl.nodup_requests.filter _, hshifts.imp ?_⟩
  intro a b hab r hra hrb
  have hsame := hl.shift_unique (mem_requestsOn.1 hra).2 (mem_requestsOn.1 hrb).2
  exact (Int.ne_of_lt hab) hsame

/-- A request is on a shift exactly if it is not pending. -/
theorem mem_flatMap_requestsOn {t : Tables} (hl : t.Lawful) (ht : t.Settled) {r : Request} :
    (r ∈ t.shifts.flatMap fun s => t.requestsOn s.id) ↔
      r ∈ t.requests ∧ r.status ≠ .pending := by
  simp only [List.mem_flatMap, mem_requestsOn]
  constructor
  · rintro ⟨s, -, hr, hbound⟩
    exact ⟨hr, (ht.not_pending_iff hr).2 ⟨s.id, hbound⟩⟩
  · rintro ⟨hr, hstatus⟩
    obtain ⟨s, hs, hbound⟩ := ht.exists_shift_of_not_pending hl hr hstatus
    exact ⟨s, hs, hr, hbound⟩

/-- The requests on the shifts and the pending requests are all requests. -/
theorem requests_perm {t : Tables} (hl : t.Lawful) (ht : t.Settled) :
    (t.shifts.flatMap (fun s => t.requestsOn s.id) ++ t.requestsIn .pending).Perm t.requests := by
  have hshown :
      (t.shifts.flatMap (fun s => t.requestsOn s.id) ++ t.requestsIn .pending).Nodup := by
    refine (nodup_flatMap_requestsOn hl).append (hl.nodup_requests.filter _) ?_
    intro r hon hin
    exact ((mem_flatMap_requestsOn hl ht).1 hon).2 (mem_requestsIn.1 hin).2
  rw [List.perm_ext_iff_of_nodup hshown hl.nodup_requests]
  intro r
  rw [List.mem_append, mem_flatMap_requestsOn hl ht, mem_requestsIn, ← and_or_left]
  exact and_iff_left (Decidable.em (r.status = .pending)).symm

/-! ### The views -/

/-- An entry agrees with what other queries tell of its shift. -/
structure ShiftDetail.Agrees (w : World) (d : ShiftDetail) : Prop where
  driven : ∃ driver ∈ w.tables.drivers, d.driver = some driver ∧ driver.id = d.shift.driverId
  load : Shifts.load d.shift.id w = (.ok {
    boundRequests := d.requests.length
    staff := d.staff.length
    checkedBags := total (·.checkedBags) d.requests
    carryOnBags := total (·.carryOnBags) d.requests }, w)
  shiftOf : ∀ r ∈ d.requests, Bindings.shiftOf? r.id w = (.ok (some d.shift.id), w)

theorem agrees_detailOf (hl : w.tables.Lawful) (ho : w.isOpen = true) {s : Shift}
    (hs : s ∈ w.tables.shifts) : (detailOf w.tables s).Agrees w where
  driven := by
    obtain ⟨d, hd⟩ := Option.isSome_iff_exists.1 (driver?_isSome_iff.2 (hl.driven s hs))
    exact ⟨d, (mem_of_driver? hd).1, hd, (mem_of_driver? hd).2⟩
  load := Shifts.load_ok_iff.2 ⟨ho, load_eq hl s.id, rfl⟩
  shiftOf r hr := by
    have hbound : w.tables.boundTo r.id = some s.id :=
      (boundTo_eq_some_iff hl).2 (mem_requestsOn.1 hr).2
    have hrun : Bindings.shiftOf? r.id w = (.ok (w.tables.boundTo r.id), w) := query_run ho
    exact hbound ▸ hrun

/-- The two views of the operators agree with the tables, with each other and with the counts, in
every world that calls lead to.  The dashboard shows every shift once, in the order of departures
and then of ids, with its driver; its requests and the pending ones are all requests, each once;
and what it shows of a shift is what the counts tell.  But if the departure of a shift lies past
the calendar, the dashboard cannot be shown. -/
theorem operator_views_agree (timeout : Int) (cs : List TimedCall) {w₀ w : World}
    (h : IsFresh w₀) (hreached : w.tables = (worldAfter timeout cs w₀).tables)
    (ho : w.isOpen = true) :
    ∃ (entries : List ShiftDetail) (pending : List Request),
      dashboard w = (if w.tables.shifts.all Shift.isReadable
        then .ok entries else .error .timeOverflow, w) ∧
      pendingRequests w = (.ok pending, w) ∧
      (entries.map (·.shift)).Perm w.tables.shifts ∧
      (entries.Pairwise fun a b =>
        a.shift.departureTime.seconds < b.shift.departureTime.seconds ∨
          (a.shift.departureTime = b.shift.departureTime ∧ a.shift.id < b.shift.id)) ∧
      (∀ d ∈ entries, d.Agrees w) ∧
      (entries.flatMap (·.requests) ++ pending).Perm w.tables.requests := by
  obtain ⟨hsound, ht⟩ := settled_worldAfter timeout cs h
  have hshow := allShowable_worldAfter timeout cs h
  have hl := hsound.lawful
  rw [← hreached] at hl ht hshow
  have hperm := departures_perm w.tables
  have hshifts : ((departures w.tables).map (detailOf w.tables)).map (·.shift)
      = departures w.tables := by
    rw [List.map_map]
    exact List.map_id _
  refine ⟨(departures w.tables).map (detailOf w.tables), w.tables.requestsIn .pending,
    dashboard_run ho hshow, pendingRequests_run ho hshow, ?_, ?_, ?_, ?_⟩
  · rw [hshifts]
    exact hperm
  · rw [List.pairwise_map]
    exact pairwise_departures hl
  · intro d hd
    obtain ⟨s, hs, rfl⟩ := List.mem_map.1 hd
    exact agrees_detailOf hl ho (hperm.mem_iff.1 hs)
  · rw [List.flatMap_map]
    exact ((hperm.flatMap_right _).append_right _).trans (requests_perm hl ht)

/-- The dashboard of the small desk after its request is published. -/
theorem operator_views_agree_after_publication :
    let w := worldAfter 0 publication smallDesk
    IsFresh smallDesk ∧ w.isOpen = true ∧
    ∃ entries pending, dashboard w = (.ok entries, w) ∧ pendingRequests w = (.ok pending, w) ∧
      entries.map (fun d => (d.shift.id, d.requests.map (·.id))) = [(1, []), (2, [1])] ∧
      (∀ d ∈ entries, d.Agrees w) ∧
      (entries.flatMap (·.requests) ++ pending).Perm w.tables.requests := by
  intro w
  have ho : w.isOpen = true := by decide +kernel
  have hreadable : w.tables.shifts.all Shift.isReadable = true := by decide +kernel
  have hsorted : departures w.tables = w.tables.shifts :=
    List.mergeSort_of_pairwise (by decide +kernel)
  have hrows : (w.tables.shifts.map (detailOf w.tables)).map
      (fun d => (d.shift.id, d.requests.map (·.id))) = [(1, []), (2, [1])] := by decide +kernel
  obtain ⟨entries, pending, hentries, hpending, -, -, hagrees, hall⟩ :=
    operator_views_agree 0 publication isFresh_smallDesk (rfl : w.tables = _) ho
  rw [if_pos hreadable] at hentries
  have hrun := dashboard_run ho (allShowable_worldAfter 0 publication isFresh_smallDesk)
  rw [if_pos hreadable, hsorted, hentries] at hrun
  cases hrun
  exact ⟨isFresh_smallDesk, ho, _, pending, hentries, hpending, hrows, hagrees, hall⟩

/-- The departure of a shift is moved past the calendar: that call stops, but what it has written
stays.  From then on there is no dashboard, though both shifts are there. -/
theorem dashboard_stops_past_calendar :
    let moved := worldAfter 0
      [.undisturbed (.updateShift 1 ⟨none, some Calendar.DateTime.last⟩)] smallDesk
    IsFresh smallDesk ∧ moved.isOpen = true ∧
    moved.tables.shifts.map (·.id) = [1, 2] ∧
    (dashboard moved).1 = .error .timeOverflow := by
  intro moved
  have ho : moved.isOpen = true := by decide +kernel
  have hunreadable : ¬ moved.tables.shifts.all Shift.isReadable = true := by decide +kernel
  refine ⟨isFresh_smallDesk, ho, by decide +kernel, ?_⟩
  rw [dashboard_run ho (allShowable_worldAfter 0 _ isFresh_smallDesk), if_neg hunreadable]

end Desk
end ShuttleDesk
