/-
  ShuttleDesk/Proofs/Desk/RiderView.lean
  ======================================
  What riders see: their own requests, each once and in the order of ids, and beside a
  published one the shift that it is bound to.  The shifts come from a second query,
  for all published requests at once, and are found again by the id of the request.
  That each request finds its own shift, and only one, rests on the bindings: a request
  has one at most.

  A departure past the end of the calendar can be stored, and then it cannot be read
  back: whoever is shown the shift gets no answer at all.
-/
import ShuttleDesk.Proofs.Desk.BindingHistory

namespace ShuttleDesk

open Procedure Statement

/-- What a rider learns of a shift and its driver. -/
def ShiftSummary.of (s : Shift) (d : Driver) : ShiftSummary where
  id := s.id
  departureTime := s.departureTime
  status := s.status
  driverId := d.id
  driverName := d.name
  carModel := d.carModel

namespace Tables

variable {t : Tables} {request : Int}

/-- The summary of the shift that a request is bound to. -/
def summaryFor (t : Tables) (request : Int) : Option ShiftSummary :=
  (t.boundTo request).bind fun shift => (t.summaryOf ⟨shift, request⟩).map (·.2)

theorem summaryOf_of_mem (hl : t.Lawful) {b : Binding} (hb : b ∈ t.bindings) :
    ∃ s ∈ t.shifts, ∃ d ∈ t.drivers, s.id = b.shiftId ∧ d.id = s.driverId ∧
      t.summaryOf b = some (b.requestId, .of s d) := by
  obtain ⟨s, hs⟩ := Option.isSome_iff_exists.1 (shift?_isSome_iff.2 (hl.bindings b hb).1)
  obtain ⟨hmem, hid⟩ := mem_of_shift? hs
  obtain ⟨d, hd⟩ := Option.isSome_iff_exists.1 (driver?_isSome_iff.2 (hl.driven s hmem))
  obtain ⟨hmem', hid'⟩ := mem_of_driver? hd
  refine ⟨s, hmem, d, hmem', hid, hid', ?_⟩
  simp [summaryOf, hs, hd, ShiftSummary.of]

/-- Among the summaries of some bindings, a request finds the one of its first binding. -/
theorem lookup_filterMap_summaryOf (hl : t.Lawful) {bs : List Binding}
    (hbs : ∀ b ∈ bs, b ∈ t.bindings) :
    (bs.filterMap t.summaryOf).lookup request =
      (bs.find? (·.requestId == request)).bind fun b => (t.summaryOf b).map (·.2) := by
  induction bs with
  | nil => rfl
  | cons b bs ih =>
    obtain ⟨s, -, d, -, -, -, hsummary⟩ := summaryOf_of_mem hl (hbs b (by simp))
    have hrest := ih fun c hc => hbs c (by simp [hc])
    by_cases h : b.requestId = request
    · simp [hsummary, h]
    · have hne : (request == b.requestId) = false := by
        simp [Ne.symm h]
      simp only [List.filterMap_cons, hsummary, List.lookup_cons, hne, hrest]
      simp [h]

theorem summaryFor_eq : t.summaryFor request =
    (t.bindings.find? (·.requestId == request)).bind fun b => (t.summaryOf b).map (·.2) := by
  unfold summaryFor boundTo bindingsOf
  rw [List.head?_filter]
  cases hb : t.bindings.find? (·.requestId == request) with
  | none => rfl
  | some b =>
    have hid : b.requestId = request := by simpa using List.find?_some hb
    subst hid
    rfl

/-- A request that is asked for finds the summary of its own shift. -/
theorem lookup_summaries (hl : t.Lawful) {ids : List Int} :
    (t.summaries ids).lookup request = if request ∈ ids then t.summaryFor request else none := by
  have hfind : (t.bindings.filter fun b => ids.contains b.requestId).find? (·.requestId == request)
      = if request ∈ ids then t.bindings.find? (·.requestId == request) else none := by
    rw [List.find?_filter]
    by_cases h : request ∈ ids
    · rw [if_pos h]
      congr 1
      funext b
      by_cases hb : b.requestId = request <;> simp [hb, h]
    · rw [if_neg h, List.find?_eq_none]
      intro b _
      by_cases hb : b.requestId = request <;> simp [hb, h]
  unfold summaries
  rw [lookup_filterMap_summaryOf hl fun b hb => (List.mem_filter.1 hb).1, hfind, summaryFor_eq]
  by_cases h : request ∈ ids <;> simp [h]

theorem summaryFor_of_mem (hl : t.Lawful) {b : Binding} (hb : b ∈ t.bindings) :
    t.summaryFor b.requestId = (t.summaryOf b).map (·.2) := by
  have hbound : t.boundTo b.requestId = some b.shiftId :=
    (boundTo_eq_some_iff hl).2 (isBound_iff.2 hb)
  rw [summaryFor, hbound]
  rfl

theorem forall_mem_summaries (hl : t.Lawful) {ids : List Int} {p : ShiftSummary → Prop} :
    (∀ x ∈ t.summaries ids, p x.2) ↔ ∀ id ∈ ids, ∀ s ∈ t.summaryFor id, p s := by
  simp only [summaries, List.mem_filterMap, List.mem_filter, List.contains_iff_mem]
  constructor
  · intro h id hid s hs
    obtain ⟨b, hb, hs⟩ := Option.bind_eq_some_iff.1 (summaryFor_eq.symm.trans hs)
    obtain ⟨x, hx, rfl⟩ := Option.map_eq_some_iff.1 hs
    have hb' : b.requestId = id := by simpa using List.find?_some hb
    exact h x ⟨b, ⟨List.mem_of_find?_eq_some hb, hb' ▸ hid⟩, hx⟩
  · rintro h x ⟨b, ⟨hb, hid⟩, hx⟩
    apply h b.requestId hid
    rw [summaryFor_of_mem hl hb, hx]
    rfl

end Tables

/-- What is looked up is answered if it can be read back. -/
theorem lift_readable_run {α : Type} {w : World} (ho : w.isOpen = true) (f : Tables → List α)
    (isReadable : α → Bool) :
    (liftM (query f >>= readable isReadable : Statement (List α)) : Operation (List α)) w =
      (if (f w.tables).all isReadable then .ok (f w.tables) else .error .timeOverflow, w) := by
  rw [lift_eq_mapError, mapError_run, bind_run, query_run ho]
  simp only [readable_run]
  by_cases h : (f w.tables).all isReadable = true
  · simp only [if_pos h]
  · simp only [if_neg h]

namespace Desk

open Tables

/-! ### The list -/

/-- A request as its rider should see it. -/
def riderView (t : Tables) (r : Request) : RiderRequest :=
  { request := r, shift := if r.status = .published then t.summaryFor r.id else none }

/-- What a rider should see. -/
def riderViews (t : Tables) (rider : Int) : List RiderRequest :=
  (t.requestsOf rider).map (riderView t)

/-- Everything that is shown is in the calendar. -/
def RiderRequest.isReadable (v : RiderRequest) : Bool :=
  v.request.isReadable && v.shift.all (·.departureTime.isReadable)

theorem all_isReadable_riderViews (t : Tables) (rider : Int) :
    (riderViews t rider).all RiderRequest.isReadable = true ↔
      (t.requestsOf rider).all Request.isReadable = true ∧
      ∀ r ∈ t.requestsOf rider, r.status = .published →
        ∀ s ∈ t.summaryFor r.id, s.departureTime.isReadable = true := by
  simp only [riderViews, List.all_map, List.all_eq_true, Function.comp, RiderRequest.isReadable,
    riderView, Bool.and_eq_true, Option.all_eq_true, forall_and]
  apply and_congr_right
  intro _
  apply forall₂_congr
  intro r hr
  by_cases hpublished : r.status = .published <;> simp [hpublished]

/-- The ids of the published requests among some. -/
def publishedIds (rows : List Request) : List Int :=
  (rows.filter (·.status == .published)).map (·.id)

theorem mem_publishedIds {t : Tables} (hl : t.Lawful) {rows : List Request}
    (hrows : ∀ r ∈ rows, r ∈ t.requests) {r : Request} (hr : r ∈ rows) :
    r.id ∈ publishedIds rows ↔ r.status = .published := by
  simp only [publishedIds, List.mem_map, List.mem_filter, beq_iff_eq]
  constructor
  · rintro ⟨r', ⟨hr', hpublished⟩, hid⟩
    have hsome := hl.request?_of_mem (hrows r' hr')
    rw [hid, hl.request?_of_mem (hrows r hr), Option.some.injEq] at hsome
    rw [hsome]
    exact hpublished
  · intro hpublished
    exact ⟨r, ⟨hr, hpublished⟩, rfl⟩

/-- The shifts of some published requests; if there are none, nothing is asked. -/
def shownShifts (ids : List Int) : Operation (List (Int × ShiftSummary)) :=
  if ids.isEmpty then return [] else Shifts.summaries ids

theorem listRequests_eq (rider : Int) : listRequests rider = (do
    let rows ← Requests.listOf rider
    let shifts ← shownShifts (publishedIds rows)
    return rows.map fun r => { request := r, shift := shifts.lookup r.id }) := by
  unfold listRequests
  apply bind_congr
  intro rows
  unfold shownShifts publishedIds
  generalize (rows.filter (·.status == .published)).map (·.id) = ids
  cases ids <;> rfl

theorem shownShifts_run {w : World} (ho : w.isOpen = true) (ids : List Int) :
    shownShifts ids w =
      (if (w.tables.summaries ids).all (·.2.departureTime.isReadable)
        then .ok (w.tables.summaries ids) else .error .timeOverflow, w) := by
  cases ids with
  | nil =>
    have hnone : w.tables.summaries [] = [] := by simp [summaries]
    rw [hnone]
    rfl
  | cons id ids => exact lift_readable_run ho (·.summaries (id :: ids)) _

theorem all_readable_summaries {t : Tables} (hl : t.Lawful) {ids : List Int} :
    (t.summaries ids).all (·.2.departureTime.isReadable) = true ↔
      ∀ id ∈ ids, ∀ s ∈ t.summaryFor id, s.departureTime.isReadable = true := by
  rw [List.all_eq_true]
  exact forall_mem_summaries hl (p := (·.departureTime.isReadable = true))

/-- The answer is what the rider should see, if all of it can be read; nothing is changed. -/
theorem listRequests_run {w : World} (hl : w.tables.Lawful) (ho : w.isOpen = true) (rider : Int) :
    listRequests rider w =
      (if (riderViews w.tables rider).all RiderRequest.isReadable
        then .ok (riderViews w.tables rider) else .error .timeOverflow, w) := by
  generalize hrows : w.tables.requestsOf rider = rows
  have hmem : ∀ r ∈ rows, r ∈ w.tables.requests := by
    intro r hr
    rw [← hrows] at hr
    exact (List.mem_filter.1 hr).1
  have hlist : (liftM (Requests.listOf rider) : Operation (List Request)) w = _ :=
    lift_readable_run ho (·.requestsOf rider) Request.isReadable
  have hviews := all_isReadable_riderViews w.tables rider
  rw [hrows] at hlist hviews
  rw [listRequests_eq, bind_run, hlist]
  by_cases hreadable : rows.all Request.isReadable = true
  · have hshown : (w.tables.summaries (publishedIds rows)).all (·.2.departureTime.isReadable) = true
        ↔ (riderViews w.tables rider).all RiderRequest.isReadable = true := by
      rw [hviews, all_readable_summaries hl]
      simp only [hreadable, true_and]
      constructor
      · intro h r hr hpublished
        exact h r.id ((mem_publishedIds hl hmem hr).2 hpublished)
      · intro h id hid
        obtain ⟨r, hr, rfl⟩ := List.mem_map.1 hid
        have hr := (List.mem_filter.1 hr)
        exact h r hr.1 (by simpa using hr.2)
    have hfound : rows.map (fun r => RiderRequest.mk r
        ((w.tables.summaries (publishedIds rows)).lookup r.id)) = riderViews w.tables rider := by
      rw [riderViews, hrows]
      apply List.map_congr_left
      intro r hr
      simp only [riderView, lookup_summaries hl, mem_publishedIds hl hmem hr]
    rw [if_pos hreadable]
    simp only [bind_run, shownShifts_run ho]
    by_cases h : (riderViews w.tables rider).all RiderRequest.isReadable = true
    · rw [if_pos h, if_pos (hshown.2 h)]
      simp only [pure_run, hfound]
    · rw [if_neg h, if_neg (mt hshown.1 h)]
  · have hstop := mt (fun h => (hviews.1 h).1) hreadable
    rw [if_neg hreadable, if_neg hstop]

/-- What is shown beside a request: nothing unless it is published and bound, and then the shift
that it is bound to, with the driver of that shift. -/
structure RiderRequest.Shows (t : Tables) (v : RiderRequest) : Prop where
  hidden : v.request.status ≠ .published → v.shift = none
  unbound : (∀ shift, t.isBound shift v.request.id = false) → v.shift = none
  bound : v.request.status = .published → ∀ shift, t.isBound shift v.request.id = true →
    ∃ s ∈ t.shifts, ∃ d ∈ t.drivers, s.id = shift ∧ d.id = s.driverId ∧ v.shift = some (.of s d)

theorem shows_riderView {t : Tables} (hl : t.Lawful) (r : Request) :
    (riderView t r).Shows t where
  hidden h := if_neg h
  unbound h := by
    have hnone : t.boundTo r.id = none := by
      rw [boundTo_eq_none_iff, mem_boundIds_iff]
      rintro ⟨shift, hbound⟩
      have hfree : t.isBound shift r.id = false := h shift
      rw [hfree] at hbound
      cases hbound
    simp [riderView, summaryFor, hnone]
  bound hpublished shift hbound := by
    obtain ⟨s, hs, d, hd, hid, hdriver, hsummary⟩ := summaryOf_of_mem hl (isBound_iff.1 hbound)
    refine ⟨s, hs, d, hd, hid, hdriver, ?_⟩
    have hfor := summaryFor_of_mem hl (isBound_iff.1 hbound)
    rw [hsummary] at hfor
    exact (if_pos hpublished).trans hfor

/-- Where states and bindings agree, a shift is shown exactly if the request is published, and it
is published too. -/
theorem shift_of_shows {t : Tables} (hl : t.Lawful) (ht : t.Settled) {v : RiderRequest}
    (hmem : v.request ∈ t.requests) (h : v.Shows t) :
    (v.shift.isSome = true ↔ v.request.status = .published) ∧
      ∀ s ∈ v.shift, s.status = .published := by
  by_cases hpublished : v.request.status = .published
  · obtain ⟨s, hs, hstatus, hbound⟩ :=
      (consistent_of_settled hl ht).published_on _ hmem hpublished
    obtain ⟨s', hs', d, -, hid, -, hshown⟩ := h.bound hpublished s.id hbound
    have hstatus' : s'.status = .published := by
      apply ht.published _ hmem hpublished s' hs'
      rw [hid]
      exact hbound
    rw [hshown]
    refine ⟨iff_of_true rfl hpublished, ?_⟩
    intro summary hsummary
    cases hsummary
    exact hstatus'
  · rw [h.hidden hpublished]
    exact ⟨iff_of_false (by simp) hpublished, by simp⟩

/-- A rider is shown exactly the rider's own requests, each once and in the order of ids, with the
shifts of the published ones; but if one of the times in the list lies past the calendar, there is
no answer.  In the worlds that calls lead to, the published requests are those with a shift, and
these shifts are published. -/
theorem listRequests_shows (rider : Int) (w : World) (hl : w.tables.Lawful)
    (ho : w.isOpen = true) :
    ∃ views : List RiderRequest,
      listRequests rider w =
        (if views.all RiderRequest.isReadable then .ok views else .error .timeOverflow, w) ∧
      views.map (·.request) = w.tables.requests.filter (·.userId == rider) ∧
      (views.map (·.request.id)).Pairwise (· < ·) ∧
      (∀ v ∈ views, v.Shows w.tables) ∧
      ∀ timeout cs w₀, IsFresh w₀ → w.tables = (worldAfter timeout cs w₀).tables →
        ∀ v ∈ views, (v.shift.isSome = true ↔ v.request.status = .published) ∧
          ∀ s ∈ v.shift, s.status = .published := by
  have hrequests : (riderViews w.tables rider).map (·.request) = w.tables.requestsOf rider := by
    simp [riderViews, riderView, Function.comp_def]
  have hshows : ∀ v ∈ riderViews w.tables rider, v.Shows w.tables := by
    intro v hv
    obtain ⟨r, -, rfl⟩ := List.mem_map.1 hv
    exact shows_riderView hl r
  refine ⟨riderViews w.tables rider, listRequests_run hl ho rider, hrequests, ?_, hshows, ?_⟩
  · have hids : (riderViews w.tables rider).map (·.request.id)
        = (w.tables.requestsOf rider).map (·.id) := by
      simp [riderViews, riderView, Function.comp_def]
    rw [hids]
    exact hl.requests.sublist (List.filter_sublist.map _)
  · intro timeout cs w₀ hfresh hreached v hv
    obtain ⟨-, ht⟩ := settled_worldAfter timeout cs hfresh
    rw [← hreached] at ht
    have hmem : v.request ∈ w.tables.requestsOf rider := by
      rw [← hrequests]
      exact List.mem_map_of_mem hv
    exact shift_of_shows hl ht (List.mem_filter.1 hmem).1 (hshows v hv)

/-- The departure of a published shift is moved past the calendar: that call stops, but what it has
written stays.  From then on the rider of the shift gets no list, though the request is there. -/
theorem listRequests_stops_past_calendar :
    let moved := worldAfter 0
      (publication ++ [.undisturbed (.updateShift 2 ⟨none, some Calendar.DateTime.last⟩)]) smallDesk
    IsFresh smallDesk ∧ moved.isOpen = true ∧
    moved.tables.requests.map (fun r => (r.id, r.userId, r.status)) = [(1, 1, .published)] ∧
    (listRequests 1 moved).1 = .error .timeOverflow := by
  intro moved
  exact ⟨isFresh_smallDesk, by decide +kernel, by decide +kernel, by decide +kernel⟩

theorem listRequests_shows_after_publication :
    let w := worldAfter 0 publication smallDesk
    IsFresh smallDesk ∧ w.isOpen = true ∧
    ∃ views, listRequests 1 w = (.ok views, w) ∧
      views.map (fun v => (v.request.id, v.shift.map (·.id))) = [(1, some 2)] ∧
      ∀ v ∈ views, v.Shows w.tables ∧ (v.shift.isSome = true ↔ v.request.status = .published) := by
  intro w
  have hl : w.tables.Lawful :=
    (sound_worldAfter 0 publication isFresh_smallDesk.sound).lawful
  have ho : w.isOpen = true := by decide +kernel
  have hshown : (listRequests 1 w).1.toOption.map
      (fun views => views.map fun v => (v.request.id, v.shift.map (·.id))) = some [(1, some 2)] := by
    decide +kernel
  obtain ⟨views, hrun, -, -, hshows, hreached⟩ := listRequests_shows 1 w hl ho
  rw [hrun] at hshown
  have hreadable : views.all RiderRequest.isReadable = true := by
    by_contra h
    rw [if_neg h] at hshown
    cases hshown
  rw [if_pos hreadable] at hrun hshown
  refine ⟨isFresh_smallDesk, ho, views, hrun, Option.some.inj hshown, ?_⟩
  intro v hv
  exact ⟨hshows v hv, (hreached 0 publication smallDesk isFresh_smallDesk rfl v hv).1⟩

end Desk

end ShuttleDesk
