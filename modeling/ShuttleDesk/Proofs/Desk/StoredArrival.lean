/-
  ShuttleDesk/Proofs/Desk/StoredArrival.lean
  ==========================================
  What becomes of a terminal and an arrival that are stored with a request.

  Both are texts, which a rider gives or the provider says, and two columns follow from
  them: the buffer of the terminal, and the pickup.  The pickup is computed from the arrival
  as it was read, while the arrival is stored as a count of seconds.  The two agree but for
  the second 60 of a minute: stored it is the second after 59, and a pickup counts on from
  second 59.

  The two sources differ in one thing.  Blanks around a terminal are dropped if the provider
  names it, and kept if a rider does; so the terminal with the longer way out is not known
  by them.
-/
import ShuttleDesk.Proofs.Calendar.Reading
import ShuttleDesk.Proofs.Desk.EditMerge
import ShuttleDesk.Proofs.Desk.FlightRepetition

namespace ShuttleDesk

open Calendar (DateTime WallClock)

/-! ### A pickup that was computed from an arrival -/

/-- The stored time some minutes later. -/
def Calendar.WallClock.after (t : WallClock) (minutes : Int) : WallClock :=
  ⟨t.seconds + minutes * 60⟩

/-- The request has this arrival, and the pickup that is computed from it. -/
structure Request.IsDueAfter (r : Request) (arrival : DateTime) : Prop where
  stored : r.arrivalTime = some (.ofDateTime arrival)
  due : r.calcPickupTime = some ⟨arrival.secondsAfter r.pickupBuffer⟩

namespace Request.IsDueAfter

variable {r : Request} {arrival : DateTime}

theorem of_time? {pickup : DateTime} (harrival : r.arrivalTime = some (.ofDateTime arrival))
    (hpickup : r.calcPickupTime = some (.ofDateTime pickup))
    (h : Pickup.time? arrival r.pickupBuffer = some pickup) : r.IsDueAfter arrival where
  stored := harrival
  due := by rw [hpickup, WallClock.ofDateTime, DateTime.seconds_of_addMinutes? h]

theorem of_details {r' : Request} (h : r.IsDueAfter arrival) (hdetails : r'.details = r.details) :
    r'.IsDueAfter arrival := by
  simp only [Request.details, NewRequest.mk.injEq] at hdetails
  obtain ⟨-, -, -, -, -, harrival, hbuffer, hpickup⟩ := hdetails
  constructor
  · rw [harrival, h.stored]
  · rw [hpickup, hbuffer, h.due]

/-- Only from a second 60 the pickup is not later by exactly the buffer. -/
theorem calcPickupTime_eq (h : r.IsDueAfter arrival) :
    r.calcPickupTime = r.arrivalTime.map fun t =>
      if arrival.isLeapSecond = true ∧ 0 < r.pickupBuffer then
        ⟨(t.after r.pickupBuffer).seconds - 1⟩
      else t.after r.pickupBuffer := by
  rw [h.due, h.stored, Option.map_some, DateTime.secondsAfter]
  split
  · rfl
  · rw [Int.sub_zero]
    rfl

theorem calcPickupTime_eq_iff (h : r.IsDueAfter arrival) :
    r.calcPickupTime = r.arrivalTime.map (·.after r.pickupBuffer) ↔
      ¬ (arrival.isLeapSecond = true ∧ 0 < r.pickupBuffer) := by
  rw [h.calcPickupTime_eq, h.stored, Option.map_some, Option.map_some, Option.some.injEq]
  split
  next hleap =>
    refine iff_of_false ?_ (not_not_intro hleap)
    rw [WallClock.mk.injEq]
    simp only [WallClock.after]
    omega
  next hleap => exact iff_of_true rfl hleap

end Request.IsDueAfter

/-! ### Two sources, three writers -/

namespace Desk

open Flight

/-- Who has given the texts. -/
inductive Source where
  | rider
  | provider
  deriving DecidableEq, Repr

/-- The terminal that is stored for a text. -/
def Source.terminal : Source → String → String
  | .rider, text => text
  | .provider, text => Text.trimmed text

/-- The provider's answer about a flight is read as this. -/
structure Reports (network : Network) (b flightNo : String) (date : Calendar.Date) (info : Info) :
    Prop where
  answered : ∃ address status body, addressFor? b flightNo date = some address ∧
    network address = .answer status body ∧ isErrorStatus status = false ∧
    Info.read (if hasNoBody status then [] else body) = .ok info

theorem Reports.lookup_found {network : Network} {b flightNo : String} {date : Calendar.Date}
    {info : Info} {f : Refresh} (h : Reports network b flightNo date info)
    (hf : Refresh.ofInfo flightNo date info = .ok f) :
    Flight.lookup network b flightNo date = .found f := by
  obtain ⟨address, status, body, haddress, hanswer, hstatus, hread⟩ := h.answered
  simp only [Flight.lookup, haddress, hanswer, Lookup.ofReply, hstatus, Bool.false_eq_true,
    if_false, hread, hf]

/-- The world has a request that has just been stored with an arrival text, and also with a
terminal text unless the rider has left the terminal as it was. -/
inductive Stored : Source → Option String → String → World → Request → Prop where
  | made {rider : Int} {input : RequestInput} {w w' : World} {r : Request}
      (run : createRequest rider input w = (.ok r, w')) :
      Stored .rider (some input.terminal) input.expectedArrivalTime w' r
  | edited {timeout rider request : Int} {edit : RequestEdit} {arrivalText : String}
      {w w' : World} {r : Request} (given : edit.expectedArrivalTime = some arrivalText)
      (run : editRequest timeout rider request edit w = (.ok r, w')) :
      Stored .rider edit.terminal arrivalText w' r
  | refreshed {network : Network} {base : Option String} {b : String} {date : Calendar.Date}
      {info : Info} {f : Refresh} {w w' : World} {report : SyncReport} {r : Request}
      (set : baseOf base = some b) (run : syncDate network base date w = (.ok report, w'))
      (row? : r ∈ w'.tables.requests) (awaits : Tables.awaitsFlight date r = true)
      (reported : Reports network b r.flightNo date info)
      (usable : Refresh.ofInfo r.flightNo date info = .ok f) :
      Stored .provider (some info.terminal) info.arrivalTime w' r

variable {w w' : World} {r : Request}

theorem of_createRequest {rider : Int} {input : RequestInput}
    (h : createRequest rider input w = (.ok r, w')) :
    r ∈ w'.tables.requests ∧ r.terminal = input.terminal ∧
      r.pickupBuffer = Pickup.bufferFor r.terminal ∧
      ∃ arrival, DateTime.parse input.expectedArrivalTime = .ok arrival ∧
        r.IsDueAfter arrival := by
  obtain ⟨-, -, date, arrival, values, -, hread, hvalues, hinsert⟩ := createRequest_ok_iff.1 h
  obtain ⟨-, -, -, -, hrow, -, rfl⟩ := Requests.insert_ok_iff.1 hinsert
  obtain ⟨pickup, hpickup, hvalues⟩ := Option.bind_eq_some_iff.1 hvalues
  cases hvalues
  subst hrow
  refine ⟨List.mem_append_right _ (List.mem_singleton.2 rfl), rfl, rfl, arrival, ?_, ?_⟩
  · exact readDateTime_ok_iff.1 hread
  · exact .of_time? rfl rfl hpickup

/-- The row that an edit returns is stored, with the values that were computed. -/
theorem details_of_saveDetails {after : Request}
    (h : Requests.saveDetails after w = (.ok r, w')) :
    r ∈ w'.tables.requests ∧ r.details = after.details := by
  obtain ⟨-, -, -, -, hr, -, rfl⟩ := Requests.saveDetails_ok_iff.1 h
  refine ⟨(Tables.mem_of_request? hr).1, ?_⟩
  have hid : ∀ s, (Request.withValues after.details s).id = s.id := fun _ => rfl
  rw [Tables.editDetails_eq, Tables.request?_editRequests hid, Option.map_eq_some_iff] at hr
  obtain ⟨row, hrow, rfl⟩ := hr
  have hchosen : (row.id == after.id) = true := beq_iff_eq.2 (Tables.mem_of_request? hrow).2
  rw [if_pos hchosen]
  rfl

namespace RequestChange

variable {c : RequestChange} {row after : Request}

/-- Where an arrival is given, the pickup is computed anew. -/
theorem isDueAfter {arrival : DateTime} (hc : c.arrival = some arrival)
    (h : c.after? row = some after) : after.IsDueAfter arrival := by
  obtain ⟨calcPickupTime, hpickup, h⟩ := Option.bind_eq_some_iff.1 h
  have hanew : c.pickupAfter row
      = (Pickup.time? arrival (c.buffer row)).map fun p => some (.ofDateTime p) := by
    simp [pickupAfter, changesTiming, arrivalAfter, hc]
  rw [hanew] at hpickup
  obtain ⟨pickup, htime, rfl⟩ := Option.map_eq_some_iff.1 hpickup
  cases h
  have hstored : (c.arrival.map WallClock.ofDateTime <|> row.arrivalTime)
      = some (.ofDateTime arrival) := by
    rw [hc]
    rfl
  exact .of_time? hstored rfl htime

theorem terminal_of_after? {terminal : String} (hc : c.terminal = some terminal)
    (h : c.after? row = some after) :
    after.terminal = terminal ∧ after.pickupBuffer = Pickup.bufferFor terminal := by
  obtain ⟨calcPickupTime, -, h⟩ := Option.bind_eq_some_iff.1 h
  cases h
  simp [buffer, hc]

end RequestChange

theorem of_editRequest {timeout rider request : Int} {edit : RequestEdit} {arrivalText : String}
    (given : edit.expectedArrivalTime = some arrivalText)
    (h : editRequest timeout rider request edit w = (.ok r, w')) :
    r ∈ w'.tables.requests ∧
      (∀ terminal, edit.terminal = some terminal →
        r.terminal = terminal ∧ r.pickupBuffer = Pickup.bufferFor terminal) ∧
      ∃ arrival, DateTime.parse arrivalText = .ok arrival ∧ r.IsDueAfter arrival := by
  obtain ⟨-, row, change, after, -, -, -, -, hchange, hafter, hsave⟩ := editRequest_ok_iff.1 h
  obtain ⟨hmem, hdetails⟩ := details_of_saveDetails hsave
  obtain ⟨date, arrival?, -, hread, hchange⟩ := RequestChange.ofEdit_ok_iff.1 hchange
  rw [given, Option.mapM_some] at hread
  obtain ⟨arrival, harrival, hread⟩ := except_bind_ok_iff.1 hread
  cases hread
  have hdue : after.IsDueAfter arrival := RequestChange.isDueAfter (by rw [← hchange]) hafter
  refine ⟨hmem, ?_, arrival, readDateTime_ok_iff.1 harrival, hdue.of_details hdetails⟩
  intro terminal hterminal
  have hafter := RequestChange.terminal_of_after? (by rw [← hchange, hterminal]) hafter
  simp only [Request.details, NewRequest.mk.injEq] at hdetails
  obtain ⟨-, -, hstored, -, -, -, hbuffer, -⟩ := hdetails
  rw [hstored, hbuffer]
  exact hafter

theorem of_refreshed {network : Network} {base : Option String} {b : String}
    {date : Calendar.Date} {info : Info} {f : Refresh} {report : SyncReport}
    (set : baseOf base = some b) (h : syncDate network base date w = (.ok report, w'))
    (row? : r ∈ w'.tables.requests) (awaits : Tables.awaitsFlight date r = true)
    (reported : Reports network b r.flightNo date info)
    (usable : Refresh.ofInfo r.flightNo date info = .ok f) :
    r.terminal = Text.trimmed info.terminal ∧ r.pickupBuffer = Pickup.bufferFor r.terminal ∧
      ∃ arrival, DateTime.parse info.arrivalTime = .ok arrival ∧ r.IsDueAfter arrival := by
  obtain ⟨-, -, htables⟩ := of_syncDate_ok set h
  rw [htables] at row?
  obtain ⟨row, hrow, rfl⟩ := List.mem_map.1 row?
  rw [awaitsFlight_synced] at awaits
  rw [synced_flightNo] at reported usable
  have hmade := Refresh.isMadeOf usable
  rw [synced_of_found awaits (reported.lookup_found usable)]
  refine ⟨hmade.terminal, hmade.buffer, f.arrivalTime, readDateTime_ok_iff.1 hmade.arrival, ?_⟩
  exact .of_time? rfl rfl hmade.pickup

namespace Stored

variable {source : Source} {terminal? : Option String} {terminal arrivalText : String}

theorem mem (h : Stored source terminal? arrivalText w r) : r ∈ w.tables.requests := by
  cases h with
  | made run => exact (of_createRequest run).1
  | edited given run => exact (of_editRequest given run).1
  | refreshed set run row? awaits reported usable => exact row?

theorem exists_isDueAfter (h : Stored source terminal? arrivalText w r) :
    ∃ arrival, DateTime.parse arrivalText = .ok arrival ∧ r.IsDueAfter arrival := by
  cases h with
  | made run => exact (of_createRequest run).2.2.2
  | edited given run => exact (of_editRequest given run).2.2
  | refreshed set run row? awaits reported usable =>
    exact (of_refreshed set run row? awaits reported usable).2.2

theorem terminal_eq (h : Stored source (some terminal) arrivalText w r) :
    r.terminal = source.terminal terminal ∧
      r.pickupBuffer = Pickup.bufferFor (source.terminal terminal) := by
  generalize hgiven : some terminal = given at h
  cases h with
  | made run =>
    cases hgiven
    obtain ⟨-, hterminal, hbuffer, -⟩ := of_createRequest run
    rw [hterminal] at hbuffer
    exact ⟨hterminal, hbuffer⟩
  | edited given run => exact (of_editRequest given run).2.1 terminal hgiven.symm
  | refreshed set run row? awaits reported usable =>
    cases hgiven
    obtain ⟨hterminal, hbuffer, -⟩ := of_refreshed set run row? awaits reported usable
    rw [hterminal] at hbuffer
    exact ⟨hterminal, hbuffer⟩

end Stored

/-- A pass stores what is reported of the flight of a request. -/
theorem Reports.stored {network : Network} {base : Option String} {b : String}
    {date : Calendar.Date} {info : Info} {f : Refresh} {report : SyncReport} {row : Request}
    (set : baseOf base = some b) (run : syncDate network base date w = (.ok report, w'))
    (row? : row ∈ w.tables.requests) (awaits : Tables.awaitsFlight date row = true)
    (reported : Reports network b row.flightNo date info)
    (usable : Refresh.ofInfo row.flightNo date info = .ok f) :
    Stored .provider (some info.terminal) info.arrivalTime w'
      (synced network b date w.now row) := by
  obtain ⟨-, -, htables⟩ := of_syncDate_ok set run
  refine .refreshed set run ?_ (f := f) ?_ ?_ ?_
  · rw [htables]
    exact List.mem_map_of_mem row?
  · rw [awaitsFlight_synced, awaits]
  · rw [synced_flightNo]
    exact reported
  · rw [synced_flightNo]
    exact usable

/-- Whoever gives the arrival, and with every terminal: the stored pickup is later than the stored
arrival by exactly the stored buffer, unless the arrival is at the second 60 of a minute and the
buffer is positive, as the buffer of every terminal is.  Then the pickup is earlier by a second. -/
theorem stored_pickup_exact_iff {source : Source} {terminal? : Option String}
    {arrivalText : String} {w : World} {r : Request}
    (h : Stored source terminal? arrivalText w r) :
    ∃ arrival, DateTime.parse arrivalText = .ok arrival ∧ r ∈ w.tables.requests ∧
      r.arrivalTime = some (.ofDateTime arrival) ∧
      (r.calcPickupTime = r.arrivalTime.map (·.after r.pickupBuffer) ↔
        ¬ (arrival.isLeapSecond = true ∧ 0 < r.pickupBuffer)) ∧
      r.calcPickupTime = r.arrivalTime.map fun t =>
        if arrival.isLeapSecond = true ∧ 0 < r.pickupBuffer then
          ⟨(t.after r.pickupBuffer).seconds - 1⟩
        else t.after r.pickupBuffer := by
  obtain ⟨arrival, hread, hdue⟩ := h.exists_isDueAfter
  exact ⟨arrival, hread, h.mem, hdue.stored, hdue.calcPickupTime_eq_iff, hdue.calcPickupTime_eq⟩

/-- A request is made in the evening, and the pickup is after midnight. -/
theorem stored_pickup_exact_over_midnight :
    ∃ r w', createRequest 1 ⟨"CA1", "2026-03-01", "T5", 1, 2, "2026-03-01 23:30:00"⟩ smallDesk
        = (.ok r, w') ∧
      r.calcPickupTime.map (·.text) = some "2026-03-02T01:00:00" ∧
      r ∈ w'.tables.requests ∧ r.calcPickupTime = r.arrivalTime.map (·.after r.pickupBuffer) := by
  obtain ⟨r, w', run, hpickup⟩ : ∃ r w',
      createRequest 1 ⟨"CA1", "2026-03-01", "T5", 1, 2, "2026-03-01 23:30:00"⟩ smallDesk
        = (.ok r, w') ∧ r.calcPickupTime.map (·.text) = some "2026-03-02T01:00:00" :=
    ⟨_, _, Prod.ext rfl rfl, by decide +kernel⟩
  obtain ⟨arrival, hread, hmem, -, hexact, -⟩ := stored_pickup_exact_iff (.made run)
  have hleap : NoLeapSecond "2026-03-01 23:30:00" := by
    unfold NoLeapSecond
    decide +kernel
  refine ⟨r, w', run, hpickup, hmem, hexact.2 ?_⟩
  rw [hleap.isLeapSecond_eq (readDateTime_ok_iff.2 hread)]
  exact fun h => Bool.false_ne_true h.1

/-- From a second 60 the pickup is earlier by a second than arrival and buffer say. -/
theorem leapSecond_pickup_not_exact :
    ¬ ∀ (source : Source) (terminal? : Option String) (arrivalText : String) (w : World)
      (r : Request), Stored source terminal? arrivalText w r →
        r.calcPickupTime = r.arrivalTime.map (·.after r.pickupBuffer) := by
  intro hclaim
  obtain ⟨r, w', run, harrival, hpickup⟩ : ∃ r w',
      createRequest 1 ⟨"CA1", "2026-03-01", "T2", 1, 2, "2026-03-01 10:00:60"⟩ smallDesk
        = (.ok r, w') ∧
      r.arrivalTime.map (fun t => (t.after r.pickupBuffer).text) = some "2026-03-01T10:46:00" ∧
      r.calcPickupTime.map (·.text) = some "2026-03-01T10:45:59" :=
    ⟨_, _, Prod.ext rfl rfl, by decide +kernel, by decide +kernel⟩
  have hexact := congrArg (Option.map (·.text)) (hclaim _ _ _ _ _ (.made run))
  rw [hpickup, Option.map_map] at hexact
  exact absurd (hexact.trans harrival) (by decide)

/-- The same two texts, from a rider and from the provider: the arrival that is stored is the same;
the terminal is if no blanks stand around it; buffer and pickup are unless it is the terminal with
the longer way out and blanks stand around it.  Then the rider's pickup is earlier by the
difference. -/
theorem rider_and_provider_alike_iff {terminal arrivalText : String} {v w : World}
    {r s : Request} (hr : Stored .rider (some terminal) arrivalText v r)
    (hs : Stored .provider (some terminal) arrivalText w s) :
    r.terminal = terminal ∧ s.terminal = Text.trimmed terminal ∧
      r.arrivalTime = s.arrivalTime ∧
      (r.pickupBuffer = s.pickupBuffer ∧ r.calcPickupTime = s.calcPickupTime ↔
        Text.trimmed terminal = terminal ∨ Text.trimmed terminal ≠ Pickup.extendedTerminal) ∧
      (Text.trimmed terminal ≠ terminal → Text.trimmed terminal = Pickup.extendedTerminal →
        r.pickupBuffer = 45 ∧ s.pickupBuffer = 90 ∧
          s.calcPickupTime = r.calcPickupTime.map (·.after 45)) := by
  obtain ⟨hrTerminal, hrBuffer⟩ := hr.terminal_eq
  obtain ⟨hsTerminal, hsBuffer⟩ := hs.terminal_eq
  obtain ⟨arrival, hread, hrDue⟩ := hr.exists_isDueAfter
  obtain ⟨arrival', hread', hsDue⟩ := hs.exists_isDueAfter
  cases hread.symm.trans hread'
  have hextended : terminal = Pickup.extendedTerminal → Text.trimmed terminal = terminal := by
    rintro rfl
    decide
  refine ⟨hrTerminal, hsTerminal, hrDue.stored.trans hsDue.stored.symm, ?_, ?_⟩
  · -- arrival and buffer decide the pickup
    have hpickups : r.pickupBuffer = s.pickupBuffer → r.calcPickupTime = s.calcPickupTime := by
      intro hbuffers
      rw [hrDue.due, hsDue.due, hbuffers]
    rw [and_iff_left_of_imp hpickups, hrBuffer, hsBuffer, Pickup.bufferFor_eq_iff]
    change (terminal = _ ↔ Text.trimmed terminal = _) ↔ _
    constructor
    · intro hsame
      by_cases hlong : Text.trimmed terminal = Pickup.extendedTerminal
      · exact .inl (hextended (hsame.2 hlong))
      · exact .inr hlong
    · rintro (hplain | hshort)
      · rw [hplain]
      · refine iff_of_false ?_ hshort
        intro hlong
        exact hshort ((hextended hlong).trans hlong)
  · intro hblanks hlong
    have hrShort : r.pickupBuffer = 45 := hrBuffer.trans (if_neg (mt hextended hblanks))
    have hsLong : s.pickupBuffer = 90 := hsBuffer.trans (if_pos hlong)
    refine ⟨hrShort, hsLong, ?_⟩
    rw [hrDue.due, hsDue.due, hrShort, hsLong, Option.map_some, WallClock.after]
    cases hleap : arrival.isLeapSecond <;> simp [DateTime.secondsAfter, hleap] <;> omega

/-! ### One flight, named by both -/

/-- A request of the first flight that lands at noon. -/
def noonRequest (terminal : String) : RequestInput :=
  ⟨"CA1", "2026-03-01", terminal, 1, 2, "2026-03-01 12:00:00"⟩

/-- A provider that says of every flight that it lands at noon. -/
def noonNetwork (terminal : String) : Network := fun _ =>
  .answer 200 (Utf8.ofString
    ("\x7b\"terminal\": \"" ++ terminal ++ "\", \"arrival_time\": \"2026-03-01 12:00:00\"\x7d"))

theorem exists_stored_by_rider {terminal : String} (h : terminal = " T2" ∨ terminal = " T5") :
    ∃ v r, Stored .rider (some terminal) "2026-03-01 12:00:00" v r := by
  obtain ⟨r, v, run⟩ : ∃ r v, createRequest 1 (noonRequest terminal) smallDesk = (.ok r, v) := by
    rcases h with rfl | rfl <;> exact ⟨_, _, Prod.ext rfl rfl⟩
  exact ⟨v, r, .made run⟩

theorem exists_stored_by_provider {terminal : String} (h : terminal = " T2" ∨ terminal = " T5") :
    ∃ v r, Stored .provider (some terminal) "2026-03-01 12:00:00" v r := by
  let w := worldAfter 0 [.undisturbed smallRequest] smallDesk
  have hbase : baseOf (some "http://flights/") = some "http://flights" := by decide +kernel
  have hreported : Reports (noonNetwork terminal) "http://flights" "CA1" arrivalDay
      ⟨none, terminal, "2026-03-01 12:00:00"⟩ := by
    rcases h with rfl | rfl <;>
      exact ⟨⟨(addressFor? "http://flights" "CA1" arrivalDay).get (by decide +kernel), 200, _,
        Option.some_get _ |>.symm, rfl, rfl, by decide +kernel⟩⟩
  obtain ⟨f, hf⟩ : ∃ f, Refresh.ofInfo "CA1" arrivalDay ⟨none, terminal, "2026-03-01 12:00:00"⟩
      = .ok f := by
    rcases h with rfl | rfl <;> exact ⟨_, rfl⟩
  have hpass : ∀ r ∈ w.tables.requests,
      isUsable (Flight.lookup (noonNetwork terminal) "http://flights" r.flightNo arrivalDay) = true ∨
        isFailed (Flight.lookup (noonNetwork terminal) "http://flights" r.flightNo arrivalDay)
          = true := by
    rcases h with rfl | rfl <;> decide +kernel
  obtain ⟨report, w', run, -⟩ := exists_syncDate_report (by decide +kernel : w.isOpen = true)
    (by decide +kernel) hbase (by decide +kernel : Statement.Storable [.date arrivalDay]) hpass
  obtain ⟨row, hrow, hawaits, hflight⟩ : ∃ row ∈ w.tables.requests,
      Tables.awaitsFlight arrivalDay row = true ∧ row.flightNo = "CA1" := by decide +kernel
  rw [← hflight] at hreported hf
  exact ⟨w', _, Reports.stored hbase run hrow hawaits hreported hf⟩

/-- Blanks around an ordinary terminal are stored by one source only, but the pickup is the same. -/
theorem rider_and_provider_alike_of_blank :
    ∃ v w r s, Stored .rider (some " T2") "2026-03-01 12:00:00" v r ∧
      Stored .provider (some " T2") "2026-03-01 12:00:00" w s ∧
      r.terminal = " T2" ∧ s.terminal = "T2" ∧
      r.pickupBuffer = s.pickupBuffer ∧ r.calcPickupTime = s.calcPickupTime := by
  obtain ⟨v, r, hr⟩ := exists_stored_by_rider (.inl rfl)
  obtain ⟨w, s, hs⟩ := exists_stored_by_provider (.inl rfl)
  have htrimmed : Text.trimmed " T2" = "T2" := by decide
  obtain ⟨hrider, hprovider, -, halike, -⟩ := rider_and_provider_alike_iff hr hs
  rw [htrimmed] at hprovider halike
  exact ⟨v, w, r, s, hr, hs, hrider, hprovider, halike.2 (.inr (by decide))⟩

/-- The terminal with the longer way out, with a blank in front: the rider's request has neither
its name nor its buffer. -/
theorem rider_and_provider_differ_on_blank :
    ¬ ∀ (terminal arrivalText : String) (v w : World) (r s : Request),
      Stored .rider (some terminal) arrivalText v r →
      Stored .provider (some terminal) arrivalText w s →
      r.terminal = s.terminal ∧ r.pickupBuffer = s.pickupBuffer ∧
        r.calcPickupTime = s.calcPickupTime := by
  intro hclaim
  obtain ⟨v, r, hr⟩ := exists_stored_by_rider (.inr rfl)
  obtain ⟨w, s, hs⟩ := exists_stored_by_provider (.inr rfl)
  obtain ⟨-, hbuffers, -⟩ := hclaim _ _ _ _ _ _ hr hs
  rw [hr.terminal_eq.2, hs.terminal_eq.2] at hbuffers
  revert hbuffers
  decide

end Desk
end ShuttleDesk
