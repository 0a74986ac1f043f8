/-
  ShuttleDesk/Proofs/Desk/Timing.lean
  ===================================
  The pickup of a request always fits its arrival and its terminal.  Three writers put
  these columns down: a new request computes them, a refresh brings them computed, and
  an edit computes them anew only if it sees a reason to.  That the edit may keep the
  old pickup rests on the invariant itself: a terminal with the same buffer has the
  same pickup, because the stored buffer is the one of the stored terminal.

  An edit of the terminal alone starts from the stored arrival, so the arrival has to
  be in the calendar; a row with a pickup in the calendar has one.

  An arrival may be the second 60 of a minute.  It is stored as the next second, but
  the pickup is counted from second 59, so the two are off by one.  The runs here are
  those in which no such arrival is taken up.
-/
import ShuttleDesk.Proofs.Desk.Sound

namespace ShuttleDesk

open Calendar (DateTime WallClock)

/-- The buffer is the one of the terminal, and the times can be read back. -/
structure Request.IsShowable (r : Request) : Prop where
  buffer : r.pickupBuffer = Pickup.bufferFor r.terminal
  readable : r.isReadable = true

theorem Request.IsShowable.of_details {r r' : Request} (h : r.IsShowable)
    (hdetails : r'.details = r.details) : r'.IsShowable := by
  simp only [Request.details, NewRequest.mk.injEq] at hdetails
  obtain ⟨-, -, hterminal, -, -, harrival, hbuffer, hpickup⟩ := hdetails
  constructor
  · rw [hbuffer, hterminal]
    exact h.buffer
  · rw [Request.isReadable, harrival, hpickup]
    exact h.readable

/-- A pickup that is computed is in the calendar, and so is its arrival. -/
theorem Request.IsShowable.of_time? {r : Request} {arrival pickup : DateTime}
    (hbuffer : r.pickupBuffer = Pickup.bufferFor r.terminal)
    (harrival : r.arrivalTime = some (.ofDateTime arrival))
    (hpickup : r.calcPickupTime = some (.ofDateTime pickup))
    (h : Pickup.time? arrival r.pickupBuffer = some pickup) : r.IsShowable where
  buffer := hbuffer
  readable := by
    rw [hbuffer] at h
    obtain ⟨ha, hp⟩ := Pickup.isReadable_of_time? h
    simp [Request.isReadable, harrival, hpickup, ha, hp]

/-- Arrival and pickup are there and can be read, and the pickup is later by the buffer of the
terminal. -/
structure Request.IsTimed (r : Request) : Prop where
  buffer : r.pickupBuffer = Pickup.bufferFor r.terminal
  readable : r.isReadable = true
  times : ∃ arrival pickup, r.arrivalTime = some arrival ∧ r.calcPickupTime = some pickup ∧
    pickup.seconds = arrival.seconds + r.pickupBuffer * 60

theorem Request.IsTimed.isShowable {r : Request} (h : r.IsTimed) : r.IsShowable :=
  ⟨h.buffer, h.readable⟩

/-- Whoever computes the pickup from the arrival times the request. -/
theorem Request.IsTimed.of_time? {r : Request} {arrival pickup : DateTime}
    (hleap : arrival.isLeapSecond = false) (hbuffer : r.pickupBuffer = Pickup.bufferFor r.terminal)
    (harrival : r.arrivalTime = some (.ofDateTime arrival))
    (hpickup : r.calcPickupTime = some (.ofDateTime pickup))
    (h : Pickup.time? arrival r.pickupBuffer = some pickup) : r.IsTimed where
  buffer := hbuffer
  readable := (IsShowable.of_time? hbuffer harrival hpickup h).readable
  times := ⟨_, _, harrival, hpickup, Pickup.seconds_of_time? hleap h⟩

theorem Request.IsTimed.of_details {r r' : Request} (h : r.IsTimed)
    (hdetails : r'.details = r.details) : r'.IsTimed where
  buffer := (h.isShowable.of_details hdetails).buffer
  readable := (h.isShowable.of_details hdetails).readable
  times := by
    simp only [Request.details, NewRequest.mk.injEq] at hdetails
    obtain ⟨-, -, -, -, -, harrival, hbuffer, hpickup⟩ := hdetails
    rw [harrival, hbuffer, hpickup]
    exact h.times

/-- The arrival of a timed request can be computed with. -/
theorem Request.IsTimed.exists_arrival {r : Request} (h : r.IsTimed) :
    ∃ arrival : DateTime, r.arrivalTime.bind WallClock.toDateTime? = some arrival ∧
      r.arrivalTime = some (.ofDateTime arrival) ∧ arrival.isLeapSecond = false := by
  obtain ⟨stored, _, hstored, -, -⟩ := h.times
  have hreadable : stored.isReadable = true := by
    have hr := h.readable
    simp only [Request.isReadable, hstored, Option.all_some, Bool.and_eq_true] at hr
    exact hr.1
  obtain ⟨arrival, harrival⟩ := Option.isSome_iff_exists.1 hreadable
  refine ⟨arrival, ?_, ?_, DateTime.not_isLeapSecond_of_ofSeconds? harrival⟩
  · rw [hstored]
    exact harrival
  · rw [hstored, WallClock.ofDateTime_of_toDateTime? harrival]

/-! ### The three writers -/

/-- What the provider says must be usable, and this is what is made of it. -/
structure Flight.Refresh.IsMadeOf (f : Flight.Refresh) (flightNo : String)
    (date : Calendar.Date) (info : Flight.Info) : Prop where
  flightNo : f.flightNo = flightNo
  arrivalDate : f.arrivalDate = date
  terminal : f.terminal = Text.trimmed info.terminal
  named : f.terminal ≠ ""
  arrival : readDateTime "arrival_time" info.arrivalTime = .ok f.arrivalTime
  buffer : f.pickupBuffer = Pickup.bufferFor f.terminal
  pickup : Pickup.time? f.arrivalTime f.pickupBuffer = some f.calcPickupTime

theorem Flight.Refresh.isMadeOf {flightNo : String} {date : Calendar.Date} {info : Flight.Info}
    {f : Flight.Refresh} (h : Flight.Refresh.ofInfo flightNo date info = .ok f) :
    f.IsMadeOf flightNo date info := by
  unfold Flight.Refresh.ofInfo at h
  dsimp only at h
  split at h
  · cases h
  next hnamed =>
    split at h
    · cases h
    next harrival =>
      split at h
      · cases h
      next hpickup =>
        cases h
        -- the projections first, so that no text is unfolded
        constructor <;> dsimp only
        · exact mt String.isEmpty_iff.2 hnamed
        · exact harrival
        · exact hpickup

namespace Desk

open Procedure

theorem isTimed_ofNew {input : RequestInput} {date : Calendar.Date} {arrival : DateTime}
    {values : NewRequest} {id rider : Int} {now : WallClock}
    (hleap : arrival.isLeapSecond = false) (h : newRequest? input date arrival = some values) :
    (Requests.ofNew id rider values now).IsTimed := by
  obtain ⟨pickup, hpickup, h⟩ := Option.bind_eq_some_iff.1 h
  cases h
  exact .of_time? hleap rfl rfl rfl hpickup

namespace RequestChange

variable {c : RequestChange} {row after : Request}

theorem buffer_eq (h : row.pickupBuffer = Pickup.bufferFor row.terminal) :
    c.buffer row = Pickup.bufferFor (c.terminal.getD row.terminal) := by
  unfold buffer
  cases c.terminal with
  | none => exact h
  | some terminal => rfl

/-- The arrival to compute with is the one that is stored afterwards. -/
theorem exists_arrivalAfter (h : row.IsTimed) (hleap : ∀ t ∈ c.arrival, t.isLeapSecond = false) :
    ∃ arrival : DateTime, c.arrivalAfter row = some arrival ∧ arrival.isLeapSecond = false ∧
      (c.arrival.map WallClock.ofDateTime <|> row.arrivalTime) = some (.ofDateTime arrival) := by
  unfold arrivalAfter
  cases hc : c.arrival with
  | some arrival => exact ⟨arrival, rfl, hleap arrival hc, rfl⟩
  | none =>
    obtain ⟨arrival, hread, hstored, hnoleap⟩ := h.exists_arrival
    exact ⟨arrival, by simpa using hread, hnoleap, by simpa using hstored⟩

/-- An edit of a request that can be shown leaves one that can be shown. -/
theorem isShowable_after? (h : row.IsShowable) (hafter : c.after? row = some after) :
    after.IsShowable := by
  obtain ⟨pickup, hpickup, hafter⟩ := Option.bind_eq_some_iff.1 hafter
  cases hafter
  obtain ⟨harrivalRead, hpickupRead⟩ := Bool.and_eq_true_iff.1 h.readable
  have hbuffer := buffer_eq (c := c) h.buffer
  refine ⟨hbuffer, ?_⟩
  -- a pickup that is computed can be read, and so can the arrival that it is computed from
  have hcomputed : ∀ {arrival : DateTime},
      (Pickup.time? arrival (c.buffer row)).map (fun p => some (WallClock.ofDateTime p))
        = some pickup →
      (WallClock.ofDateTime arrival).isReadable = true ∧
        pickup.all WallClock.isReadable = true := by
    intro arrival hmap
    rw [hbuffer] at hmap
    obtain ⟨computed, htime, rfl⟩ := Option.map_eq_some_iff.1 hmap
    exact Pickup.isReadable_of_time? htime
  unfold pickupAfter changesTiming arrivalAfter at hpickup
  cases hc : c.arrival with
  | some arrival =>
    rw [hc] at hpickup
    simp only [Option.isSome_some, Bool.or_true, if_true] at hpickup
    exact Bool.and_eq_true_iff.2 (hcomputed hpickup)
  | none =>
    rw [hc] at hpickup
    refine Bool.and_eq_true_iff.2 ⟨harrivalRead, ?_⟩
    split at hpickup
    · split at hpickup
      · cases hpickup
        exact hpickupRead
      · exact (hcomputed hpickup).2
    · cases hpickup
      exact hpickupRead

/-- An edit of a timed request leaves a timed one, also where it keeps the old pickup. -/
theorem isTimed_after? (h : row.IsTimed) (hleap : ∀ t ∈ c.arrival, t.isLeapSecond = false)
    (hafter : c.after? row = some after) : after.IsTimed := by
  obtain ⟨pickup, hpickup, hafter⟩ := Option.bind_eq_some_iff.1 hafter
  cases hafter
  have hbuffer := buffer_eq (c := c) h.buffer
  unfold pickupAfter at hpickup
  by_cases hchanges : c.changesTiming row = true
  · obtain ⟨arrival, harrival, hnoleap, hstored⟩ := exists_arrivalAfter h hleap
    simp only [if_pos hchanges, harrival] at hpickup
    obtain ⟨computed, hcomputed, rfl⟩ := Option.map_eq_some_iff.1 hpickup
    exact .of_time? hnoleap hbuffer hstored rfl hcomputed
  · rw [if_neg hchanges, Option.some.injEq] at hpickup
    subst hpickup
    simp only [changesTiming, Bool.or_eq_true, bne_iff_ne, ne_eq, not_or, not_not,
      Option.not_isSome_iff_eq_none] at hchanges
    obtain ⟨hsame, hnone⟩ := hchanges
    have hstored : (c.arrival.map WallClock.ofDateTime <|> row.arrivalTime) = row.arrivalTime := by
      simp [hnone]
    constructor
    · exact hbuffer
    · simp only [Request.isReadable, hstored]
      exact h.readable
    · simp only [hstored, hsame]
      exact h.times

theorem arrival_of_ofEdit {edit : RequestEdit} {t : DateTime} (h : ofEdit edit = .ok c)
    (ht : c.arrival = some t) : ∃ raw, edit.expectedArrivalTime = some raw ∧
      readDateTime "expected_arrival_time" raw = .ok t := by
  obtain ⟨_, -, h⟩ := except_bind_ok_iff.1 h
  obtain ⟨arrival, harrival, h⟩ := except_bind_ok_iff.1 h
  cases h
  cases hraw : edit.expectedArrivalTime with
  | none =>
    rw [hraw] at harrival
    cases harrival
    cases ht
  | some raw =>
    rw [hraw, Option.mapM_some] at harrival
    obtain ⟨read, hread, harrival⟩ := except_bind_ok_iff.1 harrival
    cases harrival
    cases ht
    exact ⟨raw, rfl, hread⟩

end RequestChange

theorem ofInfo_of_lookup {network : Flight.Network} {base flightNo : String} {date : Calendar.Date}
    {f : Flight.Refresh} (h : Flight.lookup network base flightNo date = .found f) :
    ∃ info, Flight.Refresh.ofInfo flightNo date info = .ok f := by
  unfold Flight.lookup at h
  split at h
  · cases h
  unfold Flight.Lookup.ofReply at h
  split at h
  · cases h
  split at h
  · cases h
  split at h
  · cases h
  next info _ =>
    split at h
    · cases h
      exact ⟨info, ‹_›⟩
    · cases h
    · cases h

/-- What is found for a flight has a pickup that is computed from its arrival. -/
theorem time?_of_lookup {network : Flight.Network} {base flightNo : String} {date : Calendar.Date}
    {f : Flight.Refresh} (h : Flight.lookup network base flightNo date = .found f) :
    f.pickupBuffer = Pickup.bufferFor f.terminal ∧
      Pickup.time? f.arrivalTime f.pickupBuffer = some f.calcPickupTime := by
  obtain ⟨info, hinfo⟩ := ofInfo_of_lookup h
  have hmade := Flight.Refresh.isMadeOf hinfo
  exact ⟨hmade.buffer, hmade.pickup⟩

theorem lookup_of_mem_refreshesOf {network : Flight.Network} {base : String}
    {date : Calendar.Date} {t : Tables} {f : Flight.Refresh}
    (hf : f ∈ refreshesOf (lookups network base date t)) :
    ∃ flightNo, Flight.lookup network base flightNo date = .found f := by
  obtain ⟨flightNo, -, hlookup⟩ := List.mem_map.1 (mem_refreshesOf.1 hf)
  exact ⟨flightNo, hlookup⟩

theorem isTimed_withRefresh {f : Flight.Refresh} {r : Request}
    (hleap : f.arrivalTime.isLeapSecond = false)
    (hbuffer : f.pickupBuffer = Pickup.bufferFor f.terminal)
    (h : Pickup.time? f.arrivalTime f.pickupBuffer = some f.calcPickupTime) :
    (Requests.withRefresh f r).IsTimed :=
  .of_time? hleap hbuffer rfl rfl h

/-! ### What a call writes into requests -/

/-- The values that a call can write into requests, if it goes through. -/
inductive Writes (t : Tables) : Call → NewRequest → Prop where
  | made {rider : Int} {input : RequestInput} {date : Calendar.Date} {arrival : DateTime}
      {values : NewRequest}
      (arrivalRead : readDateTime "expected_arrival_time" input.expectedArrivalTime = .ok arrival)
      (timed : newRequest? input date arrival = some values) :
      Writes t (.createRequest rider input) values
  | edited {rider request : Int} {edit : RequestEdit} {change : RequestChange}
      {row after : Request} (changeRead : RequestChange.ofEdit edit = .ok change)
      (row? : row ∈ t.requests) (timed : change.after? row = some after) :
      Writes t (.editRequest rider request edit) after.details
  | refreshed {network : Flight.Network} {base : Option String} {date : Calendar.Date}
      {b : String} {f : Flight.Refresh} {r : Request} (set : Flight.baseOf base = some b)
      (found : f ∈ refreshesOf (lookups network b date t)) :
      Writes t (.syncFlights network base date) (Requests.withRefresh f r).details

theorem details_refreshed (now : WallClock) (fs : List Flight.Refresh) (r : Request) :
    (Requests.refreshed now fs r).details = r.details ∨
      ∃ f ∈ fs, ∃ s, (Requests.refreshed now fs r).details = (Requests.withRefresh f s).details := by
  induction fs generalizing r with
  | nil => exact .inl rfl
  | cons f fs ih =>
    rw [Requests.refreshed, List.foldl_cons, ← Requests.refreshed]
    by_cases hreaches : f.reaches r = true
    · rw [if_pos hreaches]
      rcases ih { Requests.withRefresh f r with updatedAt := now } with hkept | ⟨g, hg, s, hs⟩
      · exact .inr ⟨f, List.mem_cons_self, r, hkept⟩
      · exact .inr ⟨g, List.mem_cons_of_mem _ hg, s, hs⟩
    · rw [if_neg hreaches]
      rcases ih r with hkept | ⟨g, hg, s, hs⟩
      · exact .inl hkept
      · exact .inr ⟨g, List.mem_cons_of_mem _ hg, s, hs⟩

/-- The values of a request were there before a call, or the call has written them. -/
theorem Effect.details_of_mem {w w' : World} {c : Call} {o : Outcome} (h : Effect w c o w')
    {r' : Request} (hr' : r' ∈ w'.tables.requests) :
    (∃ r ∈ w.tables.requests, r'.details = r.details) ∨
      (o.isOk = true ∧ Writes w.tables c r'.details) := by
  -- a change of states does not write them
  have hstatus : ∀ {t : Tables} {chosen : Request → Bool} {status : RequestStatus},
      t.requests = w.tables.requests →
      r' ∈ (t.editRequests w.now chosen fun r => { r with status }).requests →
      ∃ r ∈ w.tables.requests, r'.details = r.details := by
    intro t chosen status hrequests hmem
    rw [← hrequests]
    rcases mem_updateWhere.1 hmem with ⟨r, hr, -, rfl⟩ | ⟨hr, -⟩
    · exact ⟨r, hr, rfl⟩
    · exact ⟨r', hr, rfl⟩
  cases h with
  | stopped kept => exact .inl ⟨r', kept.tables ▸ hr', rfl⟩
  | requestMade alone valid dateRead arrivalRead timed storable bags known row =>
    rcases List.mem_append.1 hr' with hold | hnew
    · exact .inl ⟨r', hold, rfl⟩
    · rw [List.mem_singleton.1 hnew, ← row]
      exact .inr ⟨rfl, .made arrivalRead timed⟩
  | @detailsSaved rider request edit change row after r owned pending valid changeRead timed =>
    rcases mem_updateWhere.1 hr' with ⟨s, hs, -, rfl⟩ | ⟨hr', -⟩
    · obtain ⟨hrow, -⟩ := Option.filter_eq_some_iff.1 owned
      have hwrites : Writes w.tables (.editRequest rider request edit) after.details :=
        .edited changeRead (Tables.mem_of_request? hrow).1 timed
      exact .inr ⟨rfl, hwrites⟩
    · exact .inl ⟨r', hr', rfl⟩
  | @bound shift request => exact .inl (hstatus (t := w.tables.bind shift request) rfl hr')
  | @unbound shift request => exact .inl (hstatus (t := w.tables.unbind shift request) rfl hr')
  | @published shift => exact .inl (hstatus (t := w.tables.publishShift shift) rfl hr')
  | synced set inCalendar =>
    rw [World.withTables_tables, Tables.refreshAll_eq] at hr'
    obtain ⟨r, hr, rfl⟩ := List.mem_map.1 hr'
    rcases details_refreshed w.now (refreshesOf (lookups _ _ _ w.tables)) r with
      hkept | ⟨f, hf, s, hs⟩
    · exact .inl ⟨r, hr, hkept⟩
    · rw [hs]
      exact .inr ⟨rfl, .refreshed set hf⟩
  | _ => exact .inl ⟨r', hr', rfl⟩

/-- Every request is timed. -/
def AllTimed (t : Tables) : Prop := ∀ r ∈ t.requests, r.IsTimed

/-! ### Calls -/

/-- The arrivals that a call takes up, if it goes through: the rider's, or those that the provider
has answered. -/
def Call.arrivals (t : Tables) : Call → List DateTime
  | .createRequest _ input =>
    (readDateTime "expected_arrival_time" input.expectedArrivalTime).toOption.toList
  | .editRequest _ _ edit =>
    edit.expectedArrivalTime.toList.filterMap fun raw =>
      (readDateTime "expected_arrival_time" raw).toOption
  | .syncFlights network base date =>
    (Flight.baseOf base).toList.flatMap fun b =>
      (refreshesOf (lookups network b date t)).map (·.arrivalTime)
  | _ => []

theorem isTimed_of_mem_refreshesOf {network : Flight.Network} {base : String}
    {date : Calendar.Date} {t : Tables} {f : Flight.Refresh}
    (hf : f ∈ refreshesOf (lookups network base date t))
    (hleap : f.arrivalTime.isLeapSecond = false) (r : Request) :
    (Requests.withRefresh f r).IsTimed := by
  obtain ⟨flightNo, hlookup⟩ := lookup_of_mem_refreshesOf hf
  obtain ⟨hbuffer, htime⟩ := time?_of_lookup hlookup
  exact isTimed_withRefresh hleap hbuffer htime

/-- A call keeps the requests timed if the arrivals that it takes up are no leap seconds. -/
theorem Effect.allTimed {w w' : World} {c : Call} {o : Outcome} (h : Effect w c o w')
    (ht : AllTimed w.tables)
    (hleap : o.isOk = true → ∀ t ∈ c.arrivals w.tables, t.isLeapSecond = false) :
    AllTimed w'.tables := by
  intro r' hr'
  rcases h.details_of_mem hr' with ⟨r, hr, hdetails⟩ | ⟨hok, hwrites⟩
  · exact (ht r hr).of_details hdetails
  generalize hdetails : r'.details = values at hwrites
  cases hwrites with
  | made arrivalRead timed =>
    have hnew : (Requests.ofNew 0 0 values ⟨0⟩).IsTimed := by
      apply isTimed_ofNew _ timed
      apply hleap hok
      simp [Call.arrivals, arrivalRead, Except.toOption]
    exact hnew.of_details hdetails
  | @edited rider request edit change row after changeRead row? timed =>
    have hafter : after.IsTimed := by
      apply RequestChange.isTimed_after? (ht row row?) _ timed
      intro t harrival
      obtain ⟨raw, hraw, hread⟩ := RequestChange.arrival_of_ofEdit changeRead harrival
      apply hleap hok
      simp [Call.arrivals, hraw, hread, Except.toOption]
    exact hafter.of_details hdetails
  | @refreshed network base date b f r set found =>
    have hrefreshed : (Requests.withRefresh f r).IsTimed := by
      apply isTimed_of_mem_refreshesOf found
      apply hleap hok
      simp only [Call.arrivals, set, Option.toList_some, List.flatMap_singleton]
      exact List.mem_map_of_mem found
    exact hrefreshed.of_details hdetails

/-! ### Runs -/

/-- No call that goes through takes up an arrival with second 60. -/
def WithoutLeapSeconds (timeout : Int) : List TimedCall → World → Prop
  | [], _ => True
  | c :: cs, w =>
    ((c.make timeout w).outcome.isOk = true →
      ∀ t ∈ c.call.arrivals w.tables, t.isLeapSecond = false) ∧
    WithoutLeapSeconds timeout cs (c.make timeout w).after

theorem allTimed_worldAfter (timeout : Int) (cs : List TimedCall) {w : World}
    (h : AllTimed w.tables) (hleap : WithoutLeapSeconds timeout cs w) :
    AllTimed (worldAfter timeout cs w).tables := by
  induction cs generalizing w with
  | nil => exact h
  | cons c cs ih =>
    obtain ⟨hcall, hrest⟩ := hleap
    have hafter : AllTimed (c.make timeout w).after.tables :=
      (c.make_effect timeout w).allTimed h hcall
    exact ih hafter hrest

/-- Whatever calls are made, and whatever the provider answers: starting without requests, and
while no arrival with second 60 is taken up, every request has an arrival and a pickup, its buffer
is the one of its terminal, and its pickup is later than its arrival by the buffer. -/
theorem timed_in_runs (timeout : Int) (cs : List TimedCall) (w : World)
    (hnone : w.tables.requests = []) (hleap : WithoutLeapSeconds timeout cs w) :
    ∀ r ∈ (worldAfter timeout cs w).tables.requests, r.IsTimed := by
  apply allTimed_worldAfter timeout cs _ hleap
  intro r hr
  rw [hnone] at hr
  cases hr

/-- A provider that knows one flight. -/
def smallNetwork : Flight.Network := fun _ =>
  .answer 200 (Utf8.ofString
    "\x7b\"terminal\": \" T2 \", \"arrival_time\": \"2026-03-01 12:00:00\"\x7d")

/-- A request is made, moved to another terminal, brought up to date and moved back. -/
def retiming : List TimedCall :=
  [smallRequest,
    .editRequest 1 1 ⟨none, none, some "T1", none, none, none⟩,
    .syncFlights smallNetwork (some "http://flights") arrivalDay,
    .editRequest 1 1 ⟨none, none, some "T5", none, none, none⟩].map .undisturbed

theorem timed_after_retiming :
    smallDesk.tables.requests = [] ∧ WithoutLeapSeconds 0 retiming smallDesk ∧
    (worldAfter 0 retiming smallDesk).tables.requests.map
        (fun r => (r.terminal, r.arrivalTime.map (·.text), r.calcPickupTime.map (·.text))) =
      [("T5", some "2026-03-01T12:00:00", some "2026-03-01T13:30:00")] ∧
    ∀ r ∈ (worldAfter 0 retiming smallDesk).tables.requests, r.IsTimed := by
  have hleap : WithoutLeapSeconds 0 retiming smallDesk := by
    refine ⟨fun _ => ?_, fun _ => ?_, fun _ => ?_, fun _ => ?_, trivial⟩ <;> decide +kernel
  have htimed := timed_in_runs 0 retiming smallDesk rfl hleap
  refine ⟨rfl, hleap, ?_, htimed⟩
  decide +kernel

end Desk

end ShuttleDesk
