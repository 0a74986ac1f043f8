/-
  ShuttleDesk/Proofs/Desk/FlightIsolation.lean
  ============================================
  What one flight's answer does to the others in a pass over the flights of a day.

  A pass that ends with a report does to each request what the answer about its own
  flight says, and nothing else (`synced`): the new row is a function of the old row and
  of that one answer.  So a lookup that fails leaves its requests alone, is counted, and
  changes nothing for the other flights, which end up as they would without it.

  Not every useless answer is a failed lookup, however.  A pickup past the calendar ends
  the pass when it is computed, and a refresh that the store does not take ends it when
  all refreshes are written: then nothing is written for any flight.  A pass that meets no
  held row ends with a report if and only if no flight has such an answer and the day
  itself can be stored (`syncDate_returns_iff`).
-/
import ShuttleDesk.Proofs.Desk.Timing

namespace ShuttleDesk

/-! ### The flights of a day -/

theorem nodup_eraseDups {α : Type} [BEq α] [LawfulBEq α] (as : List α) : as.eraseDups.Nodup := by
  match as with
  | [] => simp
  | a :: as =>
    rw [List.eraseDups_cons, List.nodup_cons, List.mem_eraseDups]
    constructor
    · simp
    · exact nodup_eraseDups _
termination_by as.length
decreasing_by
  have hle := List.length_filter_le (fun b => !b == a) as
  simp only [List.length_cons]
  omega

namespace Tables

variable {t : Tables} {date : Calendar.Date}

theorem nodup_flightsOn : (t.flightsOn date).Nodup :=
  (List.mergeSort_perm _ _).nodup_iff.2 (nodup_eraseDups _)

theorem mem_flightsOn {flightNo : String} :
    flightNo ∈ t.flightsOn date ↔
      ∃ r ∈ t.requests, awaitsFlight date r = true ∧ r.flightNo = flightNo := by
  simp [flightsOn, List.mem_mergeSort, List.mem_eraseDups, and_assoc]

/-- The order of the flights does not matter for their number. -/
theorem length_filter_flightsOn (p : String → Bool) :
    ((t.flightsOn date).filter p).length =
      ((((t.requests.filter (awaitsFlight date)).map (·.flightNo)).eraseDups).filter p).length :=
  ((List.mergeSort_perm _ _).filter p).length_eq

end Tables

namespace Desk

open Flight Statement

variable {network : Network} {b : String} {date : Calendar.Date} {now : Calendar.WallClock}

/-! ### What a lookup says -/

/-- The lookup has found something that the store takes. -/
def isUsable : Lookup → Bool
  | .found f => decide (Storable (Requests.refreshArguments f))
  | _ => false

theorem of_lookup_found {flightNo : String} {f : Refresh}
    (h : Flight.lookup network b flightNo date = .found f) :
    f.flightNo = flightNo ∧ f.arrivalDate = date := by
  obtain ⟨info, hinfo⟩ := ofInfo_of_lookup h
  have hmade := Refresh.isMadeOf hinfo
  exact ⟨hmade.flightNo, hmade.arrivalDate⟩

/-! ### One request -/

/-- A request after a pass: if its flight still matters, what was found out about the flight is
written onto it. -/
def synced (network : Network) (b : String) (date : Calendar.Date) (now : Calendar.WallClock)
    (r : Request) : Request :=
  if Tables.awaitsFlight date r then
    match Flight.lookup network b r.flightNo date with
    | .found f => { Requests.withRefresh f r with updatedAt := now }
    | _ => r
  else r

variable {r : Request}

theorem synced_of_not_awaits (h : Tables.awaitsFlight date r = false) :
    synced network b date now r = r := by
  simp [synced, h]

theorem synced_of_found {f : Refresh} (h : Tables.awaitsFlight date r = true)
    (hf : Flight.lookup network b r.flightNo date = .found f) :
    synced network b date now r = { Requests.withRefresh f r with updatedAt := now } := by
  simp [synced, h, hf]

theorem synced_of_not_found (h : ∀ f, Flight.lookup network b r.flightNo date ≠ .found f) :
    synced network b date now r = r := by
  unfold synced
  split
  · split
    · next f hf => exact absurd hf (h f)
    · rfl
  · rfl

/-- A request is left alone, or what was found out about its flight is written onto it. -/
theorem synced_cases (network : Network) (b : String) (date : Calendar.Date)
    (now : Calendar.WallClock) (r : Request) :
    synced network b date now r = r ∨
    ∃ f, Flight.lookup network b r.flightNo date = .found f ∧
      Tables.awaitsFlight date r = true ∧
      synced network b date now r = { Requests.withRefresh f r with updatedAt := now } := by
  by_cases hawaits : Tables.awaitsFlight date r = true
  · cases hl : Flight.lookup network b r.flightNo date with
    | found f => exact .inr ⟨f, rfl, hawaits, synced_of_found hawaits hl⟩
    | failed e => exact .inl (synced_of_not_found (by simp [hl]))
    | pickupPastCalendar => exact .inl (synced_of_not_found (by simp [hl]))
  · exact .inl (synced_of_not_awaits (by simpa using hawaits))

/-- What a refresh does not write, a pass leaves as it is. -/
theorem synced_column {α : Type} (column : Request → α)
    (hkept : ∀ f r, column { Requests.withRefresh f r with updatedAt := now } = column r) :
    column (synced network b date now r) = column r := by
  rcases synced_cases network b date now r with h | ⟨f, -, -, h⟩
  · rw [h]
  · rw [h, hkept]

@[simp] theorem synced_flightNo : (synced network b date now r).flightNo = r.flightNo :=
  synced_column (·.flightNo) fun _ _ => rfl

/-- A request that is up to date stays as it is. -/
theorem synced_synced :
    synced network b date now (synced network b date now r) = synced network b date now r := by
  rcases synced_cases network b date now r with h | ⟨f, hf, hawaits, h⟩
  · rw [h, h]
  · have hawaits' : Tables.awaitsFlight date (synced network b date now r) = true := by
      rw [h]
      exact hawaits
    have hf' : Flight.lookup network b (synced network b date now r).flightNo date = .found f := by
      rw [synced_flightNo, hf]
    rw [synced_of_found hawaits' hf', h]
    rfl

theorem reaches_of_found {k : String} {f : Refresh}
    (h : Flight.lookup network b k date = .found f) (r : Request) :
    f.reaches r = (r.flightNo == k && Tables.awaitsFlight date r) := by
  obtain ⟨hflight, hdate⟩ := of_lookup_found h
  rw [Refresh.reaches, hflight, hdate]

/-- The refresh that a flight gets reaches the requests of that flight only. -/
theorem refreshed_lookup_cons (k : String) (ls : List Lookup) (r : Request) :
    Requests.refreshed now (refreshesOf (Flight.lookup network b k date :: ls)) r =
      Requests.refreshed now (refreshesOf ls)
        (if r.flightNo = k then synced network b date now r else r) := by
  cases hl : Flight.lookup network b k date with
  | found f =>
    have hstep : Requests.refreshed now (refreshesOf (.found f :: ls)) r =
        Requests.refreshed now (refreshesOf ls)
          (if f.reaches r then { Requests.withRefresh f r with updatedAt := now } else r) := rfl
    rw [hstep, reaches_of_found hl]
    by_cases hk : r.flightNo = k
    · by_cases hawaits : Tables.awaitsFlight date r = true
      · rw [synced_of_found hawaits (hk ▸ hl)]
        simp [hk, hawaits]
      · rw [synced_of_not_awaits (by simpa using hawaits)]
        simp [hawaits]
    · simp [hk]
  | failed e =>
    by_cases hk : r.flightNo = k
    · rw [if_pos hk, synced_of_not_found (by simp [hk, hl])]
      rfl
    · rw [if_neg hk]
      rfl
  | pickupPastCalendar =>
    by_cases hk : r.flightNo = k
    · rw [if_pos hk, synced_of_not_found (by simp [hk, hl])]
      rfl
    · rw [if_neg hk]
      rfl

/-- Of the refreshes that some flights get, the one of its own flight reaches a request. -/
theorem refreshed_refreshesOf (fs : List String) (r : Request) :
    Requests.refreshed now (refreshesOf (fs.map fun k => Flight.lookup network b k date)) r =
      if r.flightNo ∈ fs then synced network b date now r else r := by
  induction fs generalizing r with
  | nil => rfl
  | cons k fs ih =>
    rw [List.map_cons, refreshed_lookup_cons, ih]
    by_cases hk : r.flightNo = k
    · rw [if_pos hk, synced_synced, ite_self, if_pos (by simp [hk])]
    · simp [hk]

/-- A pass changes the requests one by one, each by the answer about its own flight. -/
theorem refreshAll_lookups (t : Tables) :
    t.refreshAll now (refreshesOf (lookups network b date t)) =
      { t with requests := t.requests.map (synced network b date now) } := by
  have hrows : t.requests.map (Requests.refreshed now (refreshesOf (lookups network b date t)))
      = t.requests.map (synced network b date now) := by
    apply List.map_congr_left
    intro r hr
    rw [lookups, refreshed_refreshesOf]
    by_cases hmem : r.flightNo ∈ t.flightsOn date
    · rw [if_pos hmem]
    · rw [if_neg hmem, synced_of_not_awaits]
      -- a request that awaits its flight would be among those that are looked up
      rw [← Bool.not_eq_true]
      intro hawaits
      exact hmem (Tables.mem_flightsOn.2 ⟨r, hr, hawaits, rfl⟩)
  rw [Tables.refreshAll_eq, hrows]

/-! ### One pass -/

/-- What a refresh writes does not decide which requests another one reaches. -/
theorem areFree_refresh {w : World} {f g : Refresh} :
    Requests.AreFree (w.withTables (w.tables.refresh w.now f)) g.reaches ↔
      Requests.AreFree w g.reaches := by
  have hrow : ∀ r : Request, (g.reaches (if f.reaches r then
      { Requests.withRefresh f r with updatedAt := w.now } else r) = g.reaches r) ∧
      (if f.reaches r then { Requests.withRefresh f r with updatedAt := w.now } else r).id
        = r.id := by
    intro r
    split <;> exact ⟨rfl, rfl⟩
  change (∀ r ∈ updateWhere _ _ w.tables.requests, _) ↔ _
  rw [updateWhere, List.forall_mem_map]
  simp only [hrow]
  rfl

/-- Whether refreshes can be written does not depend on their order. -/
theorem reachFree_iff {w : World} {fs : List Refresh} :
    ReachFree w fs ↔
      ∀ f ∈ fs, Storable (Requests.refreshArguments f) ∧ Requests.AreFree w f.reaches := by
  induction fs generalizing w with
  | nil => simp [ReachFree]
  | cons f fs ih =>
    rw [ReachFree, ih, List.forall_mem_cons, and_assoc]
    simp only [areFree_refresh]

theorem reachFree_iff_of_unheld {w : World} {fs : List Refresh} (h : w.heldRequests = []) :
    ReachFree w fs ↔ ∀ f ∈ fs, Storable (Requests.refreshArguments f) := by
  have hfree : ∀ f : Refresh, Requests.AreFree w f.reaches := by
    intro f r _ _
    simp [h]
  simp only [reachFree_iff, hfree, and_true]

variable {base : Option String} {w w' : World} {report : SyncReport}

/-- Every useless answer is a failed lookup. -/
theorem forall_isUsable_or_isFailed_iff {ls : List Lookup} :
    (∀ l ∈ ls, isUsable l = true ∨ isFailed l = true) ↔
      ls.any isPastCalendar = false ∧
      ∀ f ∈ refreshesOf ls, Storable (Requests.refreshArguments f) := by
  rw [List.any_eq_false]
  constructor
  · intro h
    constructor
    · intro l hl hpast
      rcases h l hl with hok | hok
      · cases l <;> simp [isUsable, isPastCalendar] at hok hpast
      · cases l <;> simp [isFailed, isPastCalendar] at hok hpast
    · intro f hf
      have hfound := h _ (mem_refreshesOf.1 hf)
      simpa [isUsable, isFailed] using hfound
  · rintro ⟨hpast, hstorable⟩ l hl
    cases l with
    | found f =>
      left
      simpa [isUsable] using hstorable f (mem_refreshesOf.2 hl)
    | failed e => exact .inr rfl
    | pickupPastCalendar => exact absurd rfl (hpast _ hl)

/-- When a pass that meets no held row ends with a report. -/
theorem syncDate_returns_iff (hopen : w.isOpen = true) (hheld : w.heldRequests = [])
    (hbase : baseOf base = some b) :
    (∃ report w', syncDate network base date w = (.ok report, w')) ↔
      Storable [.date date] ∧ ∀ k ∈ w.tables.flightsOn date,
        isUsable (Flight.lookup network b k date) = true ∨
        isFailed (Flight.lookup network b k date) = true := by
  have hlookups : (∀ k ∈ w.tables.flightsOn date,
        isUsable (Flight.lookup network b k date) = true ∨
        isFailed (Flight.lookup network b k date) = true) ↔
      ∀ l ∈ lookups network b date w.tables, isUsable l = true ∨ isFailed l = true := by
    unfold lookups
    rw [List.forall_mem_map]
  rw [hlookups, forall_isUsable_or_isFailed_iff]
  constructor
  · rintro ⟨report, w', h⟩
    obtain ⟨-, hdate, hpast, n, hwrite, -⟩ := (syncDate_ok_iff_of_base hbase).1 h
    obtain ⟨-, hfree, -⟩ := writeRefreshes_ok_iff.1 hwrite
    exact ⟨hdate, hpast, (reachFree_iff_of_unheld hheld).1 hfree⟩
  · rintro ⟨hdate, hpast, hstorable⟩
    have hfree := (reachFree_iff_of_unheld hheld).2 hstorable
    have hwrite := writeRefreshes_ok_iff.2 ⟨.inr hopen, hfree, rfl, rfl⟩
    exact ⟨_, _, (syncDate_ok_iff_of_base hbase).2 ⟨hopen, hdate, hpast, _, hwrite, rfl⟩⟩

/-- What a pass that ends with a report has counted and written. -/
theorem of_syncDate_ok (hbase : baseOf base = some b)
    (h : syncDate network base date w = (.ok report, w')) :
    report.flightsChecked = (w.tables.flightsOn date).length ∧
    report.flightsFailed = ((w.tables.flightsOn date).filter fun k =>
      isFailed (Flight.lookup network b k date)).length ∧
    w'.tables =
      { w.tables with requests := w.tables.requests.map (synced network b date w.now) } := by
  obtain ⟨-, -, -, n, hwrite, rfl⟩ := (syncDate_ok_iff_of_base hbase).1 h
  obtain ⟨-, -, -, rfl⟩ := writeRefreshes_ok_iff.1 hwrite
  refine ⟨rfl, ?_, ?_⟩
  · simp only [lookups, List.filter_map, List.length_map]
    rfl
  · rw [World.withTables_tables, refreshAll_lookups]

theorem isFailed_eq_not_isUsable {l : Lookup} (h : isUsable l = true ∨ isFailed l = true) :
    isFailed l = !isUsable l := by
  cases l with
  | found f =>
    rcases h with h | h
    · simp [h, isFailed]
    · cases h
  | failed e => rfl
  | pickupPastCalendar => rcases h with h | h <;> cases h

/-- A request whose flight gets no usable answer is left alone. -/
theorem synced_of_not_isUsable
    (h : Tables.awaitsFlight date r = true →
      isUsable (Flight.lookup network b r.flightNo date) = true ∨
      isFailed (Flight.lookup network b r.flightNo date) = true)
    (hnot : isUsable (Flight.lookup network b r.flightNo date) = false) :
    synced network b date now r = r := by
  rcases synced_cases network b date now r with hsame | ⟨f, hf, hawaits, -⟩
  · exact hsame
  · rcases h hawaits with hok | hok
    · rw [hnot] at hok
      cases hok
    · rw [hf] at hok
      cases hok

theorem filter_map_synced (p : String → Bool) (rs : List Request) :
    ((rs.map (synced network b date now)).filter fun r => p r.flightNo)
      = (rs.filter fun r => p r.flightNo).map (synced network b date now) := by
  rw [List.filter_map]
  congr 1
  apply List.filter_congr
  intro r _
  simp

/-- A pass leaves the requests alone whose flights get no usable answer. -/
theorem filter_not_isUsable_synced {t : Tables}
    (hpass : ∀ k ∈ t.flightsOn date,
      isUsable (Flight.lookup network b k date) = true ∨
      isFailed (Flight.lookup network b k date) = true) :
    (t.requests.map (synced network b date now)).filter
        (fun r => !isUsable (Flight.lookup network b r.flightNo date))
      = t.requests.filter fun r => !isUsable (Flight.lookup network b r.flightNo date) := by
  have hleft : ∀ r ∈ t.requests.filter
      (fun r => !isUsable (Flight.lookup network b r.flightNo date)),
      synced network b date now r = id r := by
    intro r hr
    obtain ⟨hmem, hnot⟩ := List.mem_filter.1 hr
    rw [Bool.not_eq_true'] at hnot
    apply synced_of_not_isUsable _ hnot
    intro hawaits
    exact hpass r.flightNo (Tables.mem_flightsOn.2 ⟨r, hmem, hawaits, rfl⟩)
  rw [filter_map_synced fun k => !isUsable (Flight.lookup network b k date),
    List.map_congr_left hleft, List.map_id]

/-- A pass in which every answer is usable ends with a report of no failure. -/
theorem syncDate_of_all_isUsable (hopen : w.isOpen = true) (hheld : w.heldRequests = [])
    (hbase : baseOf base = some b) (hdate : Storable [.date date])
    (hall : ∀ r ∈ w.tables.requests,
      isUsable (Flight.lookup network b r.flightNo date) = true) :
    ∃ report w', syncDate network base date w = (.ok report, w') ∧ report.flightsFailed = 0 ∧
      w'.tables.requests = w.tables.requests.map (synced network b date w.now) := by
  have husable : ∀ k ∈ w.tables.flightsOn date,
      isUsable (Flight.lookup network b k date) = true := by
    intro k hk
    obtain ⟨r, hr, -, rfl⟩ := Tables.mem_flightsOn.1 hk
    exact hall r hr
  obtain ⟨report, w', h⟩ := (syncDate_returns_iff hopen hheld hbase).2
    ⟨hdate, fun k hk => .inl (husable k hk)⟩
  obtain ⟨-, hfailed, htables⟩ := of_syncDate_ok hbase h
  refine ⟨report, w', h, ?_, by rw [htables]⟩
  rw [hfailed, List.length_eq_zero_iff, List.filter_eq_nil_iff]
  intro k hk
  rw [isFailed_eq_not_isUsable (.inl (husable k hk))]
  simpa using husable k hk

/-- A pass over the flights of a day, when nothing is held: it ends with a report unless the day
or an answer cannot be stored or a pickup is past the calendar.  If it does, flights without a
usable answer are counted and their requests stay as they are, and the other requests end up as
if those flights were not there. -/
theorem syncDate_isolates_flights (network : Network) (base : Option String) (b : String)
    (date : Calendar.Date) (w : World) (hopen : w.isOpen = true) (hheld : w.heldRequests = [])
    (hbase : baseOf base = some b) :
    let useful := fun k => isUsable (Flight.lookup network b k date)
    ((∃ report w', syncDate network base date w = (.ok report, w')) ↔
      Storable [.date date] ∧ ∀ k ∈ w.tables.flightsOn date,
        useful k = true ∨ isFailed (Flight.lookup network b k date) = true) ∧
    (∀ s w', syncDate network base date w = (.error s, w') → w'.tables = w.tables) ∧
    ∀ report w', syncDate network base date w = (.ok report, w') →
      (w.tables.flightsOn date).Nodup ∧
      report.flightsChecked = (w.tables.flightsOn date).length ∧
      report.flightsFailed = ((w.tables.flightsOn date).filter fun k => !useful k).length ∧
      (w'.tables.requests.filter fun r => !useful r.flightNo)
        = (w.tables.requests.filter fun r => !useful r.flightNo) ∧
      ∀ u : World, u.isOpen = true → u.heldRequests = [] → u.now = w.now →
        u.tables.requests = (w.tables.requests.filter fun r => useful r.flightNo) →
        ∃ report' u', syncDate network base date u = (.ok report', u') ∧
          report'.flightsFailed = 0 ∧
          u'.tables.requests = w'.tables.requests.filter fun r => useful r.flightNo := by
  intro useful
  refine ⟨syncDate_returns_iff hopen hheld hbase,
    fun s w' h => (atomic_syncDate network base date w s w' h).tables, ?_⟩
  intro report w' h
  obtain ⟨hdate, hpass⟩ := (syncDate_returns_iff hopen hheld hbase).1 ⟨report, w', h⟩
  obtain ⟨hchecked, hfailed, htables⟩ := of_syncDate_ok hbase h
  refine ⟨Tables.nodup_flightsOn, hchecked, ?_, ?_, ?_⟩
  · rw [hfailed]
    congr 1
    apply List.filter_congr
    intro k hk
    exact isFailed_eq_not_isUsable (hpass k hk)
  · rw [htables]
    exact filter_not_isUsable_synced hpass
  · -- a table without the flights that get no usable answer
    intro u huopen huheld hunow hurows
    have hall : ∀ r ∈ u.tables.requests, useful r.flightNo = true := by
      intro r hr
      rw [hurows] at hr
      exact (List.mem_filter.1 hr).2
    obtain ⟨report', u', hu, hnone, hrows⟩ :=
      syncDate_of_all_isUsable huopen huheld hbase hdate hall
    refine ⟨report', u', hu, hnone, ?_⟩
    rw [hrows, htables, filter_map_synced useful, hunow, hurows]

/-- Two riders arrive on a day with two flights. -/
def twoFlights : List TimedCall :=
  [smallRequest, .createRequest 2 ⟨"CA2", "2026-03-01", "T5", 1, 1, "2026-03-01 11:00:00"⟩].map
    .undisturbed

/-- A provider that says something about the first of them and something else about the other. -/
def twoReplies (first other : Reply) : Network := fun a =>
  if a.path.getLast? = some "CA1".toList then first else other

/-- The provider's answer with an arrival. -/
def arrivingAt (arrival : String) : Reply :=
  .answer 200 (Utf8.ofString
    ("\x7b\"terminal\": \"T2\", \"arrival_time\": \"" ++ arrival ++ "\"\x7d"))

/-- One flight is unknown: it is counted, and its request stays as it is. -/
theorem syncDate_isolates_unknown_flight :
    let w := worldAfter 0 twoFlights smallDesk
    let network := twoReplies (arrivingAt "2026-03-01 12:00:00") .nothing
    let useful := fun k => isUsable (Flight.lookup network "http://flights" k arrivalDay)
    w.isOpen = true ∧ w.heldRequests = [] ∧
    baseOf (some "http://flights/") = some "http://flights" ∧
    w.tables.requests.map (fun r => (r.flightNo, useful r.flightNo))
      = [("CA1", true), ("CA2", false)] ∧
    ∃ report w', syncDate network (some "http://flights/") arrivalDay w = (.ok report, w') ∧
      report.flightsFailed = 1 ∧
      (w'.tables.requests.filter fun r => !useful r.flightNo)
        = (w.tables.requests.filter fun r => !useful r.flightNo) := by
  intro w network useful
  have hopen : w.isOpen = true := by decide +kernel
  have hheld : w.heldRequests = [] := by decide +kernel
  have hbase : baseOf (some "http://flights/") = some "http://flights" := by decide +kernel
  obtain ⟨hreturns, -, hok⟩ := syncDate_isolates_flights network (some "http://flights/")
    "http://flights" arrivalDay w hopen hheld hbase
  have hpass : ∀ r ∈ w.tables.requests, useful r.flightNo = true ∨
      isFailed (Flight.lookup network "http://flights" r.flightNo arrivalDay) = true := by
    decide +kernel
  obtain ⟨report, w', h⟩ := hreturns.2 ⟨by decide +kernel, by
    intro k hk
    obtain ⟨r, hr, -, rfl⟩ := Tables.mem_flightsOn.1 hk
    exact hpass r hr⟩
  obtain ⟨-, -, hfailed, huntouched, -⟩ := hok report w' h
  refine ⟨hopen, hheld, hbase, by decide +kernel, report, w', h, ?_, huntouched⟩
  rw [hfailed, Tables.length_filter_flightsOn]
  decide +kernel

/-- An arrival so late that the pickup is past the calendar keeps all flights from being brought
up to date. -/
theorem syncDate_stops_past_calendar :
    ¬ ∀ (network : Network) (base : Option String) (b : String) (date : Calendar.Date) (w : World),
      w.isOpen = true → w.heldRequests = [] → baseOf base = some b →
      ∃ report w', syncDate network base date w = (.ok report, w') := by
  intro h
  have hopen : (worldAfter 0 twoFlights smallDesk).isOpen = true := by decide +kernel
  have hheld : (worldAfter 0 twoFlights smallDesk).heldRequests = [] := by decide +kernel
  have hbase : baseOf (some "http://flights/") = some "http://flights" := by decide +kernel
  have hruns := h
    (twoReplies (arrivingAt "2026-03-01 12:00:00") (arrivingAt "+262142-12-31 23:59:00"))
    (some "http://flights/") "http://flights" arrivalDay _ hopen hheld hbase
  obtain ⟨-, hpass⟩ := (syncDate_returns_iff hopen hheld hbase).1 hruns
  have hother := hpass "CA2" (Tables.mem_flightsOn.2 (by decide +kernel))
  revert hother
  decide +kernel

end Desk
end ShuttleDesk
