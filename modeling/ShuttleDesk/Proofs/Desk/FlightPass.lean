/-
  ShuttleDesk/Proofs/Desk/FlightPass.lean
  =======================================
  What a pass over the flights of a day does when it ends with a report.

  The flights are read by one query and written by another, and the two must mean the
  same requests: those that arrive on the day and are not published.  The pass looks up
  the flights of these requests, each once and in the order of texts, and writes what it
  finds onto exactly these requests.  So the rows that it counts while it writes, one
  refresh after the other, are the requests of the flights that were found: no two
  refreshes are of the same flight, and no refresh moves a request to another one.

  A refreshed row has the values of the refresh as a stored time has them.  The arrival
  may be the second 60 of a minute, which is stored as the first second of the next; the
  pickup that is computed from it is no such second and is read back as it is.
-/
import ShuttleDesk.Proofs.Desk.FlightIsolation
import ShuttleDesk.Proofs.Text.ByteOrder

namespace ShuttleDesk

/-! ### The order of the flights -/

namespace Tables

variable {t : Tables} {date : Calendar.Date}

theorem awaitsFlight_iff {r : Request} :
    awaitsFlight date r = true ↔
      (r.status = .pending ∨ r.status = .assigned) ∧ r.arrivalDate = date := by
  simp only [awaitsFlight, RequestStatus.isOpen, Bool.and_eq_true, Bool.or_eq_true, beq_iff_eq]
  exact and_comm

/-- The flights stand in ascending order, so that none stands there twice. -/
theorem pairwise_flightsOn :
    (t.flightsOn date).Pairwise fun j k => Utf8.ofString j < Utf8.ofString k := by
  have hle : (t.flightsOn date).Pairwise fun j k => decide (¬ k < j) = true := by
    apply List.pairwise_mergeSort
    · intro i j k hij hjk
      simp only [decide_eq_true_eq, String.not_lt] at hij hjk ⊢
      exact String.le_trans hij hjk
    · intro j k
      simp only [Bool.or_eq_true, decide_eq_true_eq, String.not_lt]
      exact String.le_total j k
  refine (hle.and nodup_flightsOn).imp ?_
  rintro j k ⟨hjk, hne⟩
  simp only [decide_eq_true_eq, String.not_lt] at hjk
  rw [Utf8.ofString_lt_iff, ← String.not_le]
  intro hkj
  exact hne (String.le_antisymm hjk hkj)

end Tables

/-- How the times of a refresh are read back from the rows that it is written onto. -/
structure Flight.Refresh.ReadsBack (f : Flight.Refresh) : Prop where
  pickup : (Calendar.WallClock.ofDateTime f.calcPickupTime).toDateTime? = some f.calcPickupTime
  arrival : f.arrivalTime.isLeapSecond = false →
    (Calendar.WallClock.ofDateTime f.arrivalTime).toDateTime? = some f.arrivalTime
  leapSecond : f.arrivalTime.isLeapSecond = true →
    ∃ t, (Calendar.WallClock.ofDateTime f.arrivalTime).toDateTime? = some t ∧ t.second = 0 ∧
      t.seconds = f.arrivalTime.seconds

namespace Desk

open Flight Statement

variable {network : Network} {base : Option String} {b : String} {date : Calendar.Date}
  {now : Calendar.WallClock} {w w' : World} {report : SyncReport}

/-! ### How many rows are written -/

/-- The lookup has found something. -/
def isFound : Lookup → Bool
  | .found _ => true
  | _ => false

/-- A pass writes onto the request: its flight still matters, and the provider knows it. -/
def isRefreshed (network : Network) (b : String) (date : Calendar.Date) (r : Request) : Bool :=
  Tables.awaitsFlight date r && isFound (Flight.lookup network b r.flightNo date)

/-- A refresh does not decide which requests the next ones reach. -/
theorem countP_refresh {p : Request → Bool} {f : Refresh} (t : Tables)
    (hp : ∀ r, p { Requests.withRefresh f r with updatedAt := now } = p r) :
    (t.refresh now f).requests.countP p = t.requests.countP p := by
  change (updateWhere _ _ t.requests).countP p = _
  rw [updateWhere, List.countP_map]
  apply List.countP_congr
  intro r _
  simp only [Function.comp_apply]
  split
  · rw [hp]
  · rfl

/-- The requests of one flight more are the requests of that flight, and those of the others. -/
theorem countP_isRefreshed_cons {rs : List Request} {k : String} {fs : List String}
    (hk : k ∉ fs) :
    (rs.countP fun r => decide (r.flightNo ∈ k :: fs) && isRefreshed network b date r)
      = (rs.countP fun r => (r.flightNo == k && Tables.awaitsFlight date r)
          && isFound (Flight.lookup network b k date))
        + rs.countP fun r => decide (r.flightNo ∈ fs) && isRefreshed network b date r := by
  rw [List.countP_eq_countP_filter_add _ _ fun r => r.flightNo == k, List.countP_filter,
    List.countP_filter]
  congr 1
  · apply List.countP_congr
    intro r _
    by_cases hr : r.flightNo = k
    · simp [isRefreshed, hr]
    · simp [hr]
  · apply List.countP_congr
    intro r _
    by_cases hr : r.flightNo = k
    · simp [hr, hk]
    · simp [hr]

/-- The refreshes of different flights reach different requests. -/
theorem reached_refreshesOf (t : Tables) {fs : List String} (hfs : fs.Nodup) :
    reached t now (refreshesOf (fs.map fun k => Flight.lookup network b k date))
      = t.requests.countP fun r => decide (r.flightNo ∈ fs) && isRefreshed network b date r := by
  induction fs generalizing t with
  | nil => simp [refreshesOf, reached]
  | cons k fs ih =>
    obtain ⟨hk, hfs⟩ := List.nodup_cons.1 hfs
    rw [countP_isRefreshed_cons hk, List.map_cons]
    cases hl : Flight.lookup network b k date with
    | found f =>
      have hstep : ∀ fs', reached t now (refreshesOf (.found f :: fs'))
          = (t.requests.filter f.reaches).length
            + reached (t.refresh now f) now (refreshesOf fs') := fun _ => rfl
      rw [hstep, ih _ hfs, countP_refresh t fun _ => rfl, ← List.countP_eq_length_filter,
        funext (reaches_of_found hl)]
      simp [isFound]
    | failed e =>
      have hstep : ∀ fs', refreshesOf (.failed e :: fs') = refreshesOf fs' := fun _ => rfl
      rw [hstep, ih _ hfs]
      simp [isFound]
    | pickupPastCalendar =>
      have hstep : ∀ fs', refreshesOf (.pickupPastCalendar :: fs') = refreshesOf fs' :=
        fun _ => rfl
      rw [hstep, ih _ hfs]
      simp [isFound]

/-- A pass counts the requests whose flight still matters and was found. -/
theorem reached_lookups (t : Tables) :
    reached t now (refreshesOf (lookups network b date t))
      = t.requests.countP (isRefreshed network b date) := by
  rw [lookups, reached_refreshesOf t Tables.nodup_flightsOn]
  apply List.countP_congr
  intro r hr
  simp only [Bool.and_eq_true, decide_eq_true_eq, and_iff_right_iff_imp, isRefreshed]
  rintro ⟨hawaits, -⟩
  exact Tables.mem_flightsOn.2 ⟨r, hr, hawaits, rfl⟩

/-! ### What a pass leaves -/

/-- What a pass does to a row, when lookups end like this. -/
inductive RowAfterPass (ends : String → Lookup) (date : Calendar.Date) (now : Calendar.WallClock) :
    Request → Request → Prop where
  | refreshed {r : Request} {f : Refresh}
      (unpublished : r.status = .pending ∨ r.status = .assigned) (onDay : r.arrivalDate = date)
      (found : ends r.flightNo = .found f) :
      RowAfterPass ends date now r { r with
        terminal := f.terminal
        arrivalTime := some (.ofDateTime f.arrivalTime)
        pickupBuffer := f.pickupBuffer
        calcPickupTime := some (.ofDateTime f.calcPickupTime)
        updatedAt := now }
  | left {r : Request}
      (other : (r.status = .pending ∨ r.status = .assigned) → r.arrivalDate = date →
        ∀ f, ends r.flightNo ≠ .found f) :
      RowAfterPass ends date now r r

theorem rowAfterPass_synced (r : Request) :
    RowAfterPass (Flight.lookup network b · date) date now r (synced network b date now r) := by
  by_cases hfound : ∃ f, Flight.lookup network b r.flightNo date = .found f
  · obtain ⟨f, hf⟩ := hfound
    by_cases hawaits : Tables.awaitsFlight date r = true
    · obtain ⟨hstatus, hday⟩ := Tables.awaitsFlight_iff.1 hawaits
      rw [synced_of_found hawaits hf]
      exact .refreshed hstatus hday hf
    · rw [synced_of_not_awaits (by simpa using hawaits)]
      exact .left fun hstatus hday => absurd (Tables.awaitsFlight_iff.2 ⟨hstatus, hday⟩) hawaits
  · rw [not_exists] at hfound
    rw [synced_of_not_found hfound]
    exact .left fun _ _ => hfound

theorem readsBack_of_lookup {k : String} {f : Refresh}
    (h : Flight.lookup network b k date = .found f) : f.ReadsBack := by
  obtain ⟨hbuffer, htime⟩ := time?_of_lookup h
  rw [hbuffer] at htime
  constructor
  case pickup =>
    exact Calendar.WallClock.toDateTime?_ofDateTime (Pickup.not_isLeapSecond_of_time? htime)
  case arrival => exact Calendar.WallClock.toDateTime?_ofDateTime
  case leapSecond =>
    intro hleap
    obtain ⟨t, ht⟩ := Option.isSome_iff_exists.1 (Pickup.isReadable_of_time? htime).1
    exact ⟨t, ht, Calendar.WallClock.second_eq_zero_of_isLeapSecond hleap ht,
      Calendar.DateTime.seconds_of_ofSeconds? ht⟩

/-- A lookup that does not leave the calendar has found something or failed. -/
theorem exists_found_or_failed {l : Lookup} (h : isPastCalendar l = false) :
    (∃ f, l = .found f) ∨ ∃ e, l = .failed e := by
  cases l with
  | found f => exact .inl ⟨f, rfl⟩
  | failed e => exact .inr ⟨e, rfl⟩
  | pickupPastCalendar => cases h

/-- A pass over requests of which no flight leads past the calendar ends with a report. -/
theorem exists_syncDate_report (hopen : w.isOpen = true) (hheld : w.heldRequests = [])
    (hbase : baseOf base = some b) (hdate : Storable [.date date])
    (hpass : ∀ r ∈ w.tables.requests, isUsable (Flight.lookup network b r.flightNo date) = true ∨
      isFailed (Flight.lookup network b r.flightNo date) = true) :
    ∃ report w', syncDate network base date w = (.ok report, w') ∧ report.skipped = false := by
  obtain ⟨report, w', h⟩ := (syncDate_returns_iff hopen hheld hbase).2 ⟨hdate, by
    intro k hk
    obtain ⟨r, hr, -, rfl⟩ := Tables.mem_flightsOn.1 hk
    exact hpass r hr⟩
  obtain ⟨-, -, -, n, -, rfl⟩ := (syncDate_ok_iff_of_base hbase).1 h
  exact ⟨_, w', h, rfl⟩

/-- A pass that ends with a report.  The flights that are looked up are those of the requests that
arrive on the day and are not published, each once and in the order of their bytes; they are
counted, and so are the failed lookups.  The requests of the flights that were found, which are
counted as well, get the values of the refresh; a leap second in them is stored as the second after
it.  Nothing else is changed but the stamps of these rows. -/
theorem syncDate_report (network : Network) (base : Option String) (date : Calendar.Date)
    (w w' : World) (report : SyncReport)
    (h : syncDate network base date w = (.ok report, w')) (hmade : report.skipped = false) :
    ∃ (b : String) (flights : List String) (rows : List Request),
      let ends := fun k => Flight.lookup network b k date
      baseOf base = some b ∧
      lookedUp network b date flights = flights ∧
      asked network base date w = flights.filterMap (fun k => addressFor? b k date) ∧
      flights.Pairwise (fun j k => Utf8.ofString j < Utf8.ofString k) ∧
      (∀ k, k ∈ flights ↔ ∃ r ∈ w.tables.requests, (r.status = .pending ∨ r.status = .assigned) ∧
        r.arrivalDate = date ∧ r.flightNo = k) ∧
      (∀ k ∈ flights, (∃ f, ends k = .found f ∧ f.ReadsBack) ∨ ∃ e, ends k = .failed e) ∧
      report.flightsChecked = flights.length ∧
      report.flightsFailed = (flights.filter fun k => isFailed (ends k)).length ∧
      report.requestsUpdated = (w.tables.requests.filter (isRefreshed network b date)).length ∧
      List.Forall₂ (RowAfterPass ends date w.now) w.tables.requests rows ∧
      w'.tables = { w.tables with requests := rows } := by
  rcases syncDate_ok_iff.1 h with ⟨-, rfl, -⟩ | ⟨b, hb, hopen, hdate, hpast, n, hwrite, rfl⟩
  · cases hmade
  have hends : ∀ k ∈ w.tables.flightsOn date,
      isPastCalendar (Flight.lookup network b k date) = false := by
    intro k hk
    rw [List.any_eq_false] at hpast
    simpa using hpast _ (List.mem_map_of_mem hk)
  have hlookedUp := lookedUp_eq_self hends
  obtain ⟨-, hfailed, htables⟩ := of_syncDate_ok hb h
  refine ⟨b, w.tables.flightsOn date, w.tables.requests.map (synced network b date w.now), hb,
    hlookedUp, ?_, Tables.pairwise_flightsOn, ?_, ?_, rfl, hfailed, ?_, ?_, htables⟩
  · have hread := Requests.flightsOn_ok_iff.2 ⟨hopen, hdate, rfl, rfl⟩
    simp only [asked, hb, hread, hlookedUp]
  · intro k
    simp only [Tables.mem_flightsOn, Tables.awaitsFlight_iff, and_assoc]
  · intro k hk
    rcases exists_found_or_failed (hends k hk) with ⟨f, hf⟩ | hfailed
    · exact .inl ⟨f, hf, readsBack_of_lookup hf⟩
    · exact .inr hfailed
  · obtain ⟨-, -, hn, -⟩ := writeRefreshes_ok_iff.1 hwrite
    rw [reached_lookups, List.countP_eq_length_filter] at hn
    exact hn.symm
  · rw [List.forall₂_map_right_iff, List.forall₂_same]
    intro r _
    exact rowAfterPass_synced r

/-- Two flights, of which one is unknown: both are counted, and one request is written. -/
theorem syncDate_report_of_unknown_flight :
    let w := worldAfter 0 twoFlights smallDesk
    let network := twoReplies (arrivingAt "2026-03-01 12:00:00") .nothing
    ∃ report w', syncDate network (some "http://flights/") arrivalDay w = (.ok report, w') ∧
      report.skipped = false ∧ report.flightsFailed = 1 ∧ report.requestsUpdated = 1 ∧
      ∃ rows, List.Forall₂
          (RowAfterPass (Flight.lookup network "http://flights" · arrivalDay) arrivalDay w.now)
          w.tables.requests rows ∧
        w'.tables = { w.tables with requests := rows } := by
  intro w network
  have hbase : baseOf (some "http://flights/") = some "http://flights" := by decide +kernel
  obtain ⟨report, w', h, hmade⟩ := exists_syncDate_report (by decide +kernel : w.isOpen = true)
    (by decide +kernel) hbase (by decide +kernel : Storable [.date arrivalDay])
    (by decide +kernel : ∀ r ∈ w.tables.requests,
      isUsable (Flight.lookup network _ r.flightNo arrivalDay) = true ∨
        isFailed (Flight.lookup network _ r.flightNo arrivalDay) = true)
  obtain ⟨b, flights, rows, hb, -, -, -, -, -, -, -, hupdated, hrows, htables⟩ :=
    syncDate_report network (some "http://flights/") arrivalDay w w' report h hmade
  obtain rfl : "http://flights" = b := Option.some.inj (hbase.symm.trans hb)
  obtain ⟨-, hfailed, -⟩ := of_syncDate_ok hbase h
  refine ⟨report, w', h, hmade, ?_, ?_, rows, hrows, htables⟩
  · rw [hfailed, Tables.length_filter_flightsOn]
    decide +kernel
  · rw [hupdated]
    decide +kernel

/-- An arrival at the second 60 of a minute is not what the row has afterwards. -/
theorem syncDate_moves_leapSecond :
    ¬ ∀ (network : Network) (base : Option String) (b : String) (date : Calendar.Date)
        (w w' : World) (report : SyncReport),
      syncDate network base date w = (.ok report, w') → report.skipped = false →
      baseOf base = some b →
      ∀ r ∈ w'.tables.requests, Tables.awaitsFlight date r = true →
        ∀ f, Flight.lookup network b r.flightNo date = .found f →
          r.arrivalTime.bind Calendar.WallClock.toDateTime? = some f.arrivalTime := by
  intro hclaim
  let w := worldAfter 0 [.undisturbed smallRequest] smallDesk
  let network := twoReplies (arrivingAt "2026-03-01 12:00:60") .nothing
  have hbase : baseOf (some "http://flights/") = some "http://flights" := by decide +kernel
  obtain ⟨report, w', h, hmade⟩ := exists_syncDate_report (by decide +kernel : w.isOpen = true)
    (by decide +kernel) hbase (by decide +kernel : Storable [.date arrivalDay])
    (by decide +kernel : ∀ r ∈ w.tables.requests,
      isUsable (Flight.lookup network _ r.flightNo arrivalDay) = true ∨
        isFailed (Flight.lookup network _ r.flightNo arrivalDay) = true)
  have hrows := hclaim _ _ _ _ _ _ _ h hmade hbase
  obtain ⟨-, -, htables⟩ := of_syncDate_ok hbase h
  rw [htables] at hrows
  have hread : ∃ r ∈ w.tables.requests.map (synced network "http://flights" arrivalDay w.now),
      Tables.awaitsFlight arrivalDay r = true ∧
      ∃ f ∈ refreshesOf [Flight.lookup network "http://flights" r.flightNo arrivalDay],
        r.arrivalTime.bind Calendar.WallClock.toDateTime? ≠ some f.arrivalTime := by
    decide +kernel
  obtain ⟨r, hr, hawaits, f, hf, hne⟩ := hread
  exact hne (hrows r hr hawaits f (List.mem_singleton.1 (mem_refreshesOf.1 hf)).symm)

end Desk
end ShuttleDesk
