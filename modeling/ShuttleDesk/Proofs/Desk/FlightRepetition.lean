/-
  ShuttleDesk/Proofs/Desk/FlightRepetition.lean
  =============================================
  A pass over the flights of a day that is made again, and its refreshes in any order.

  A pass writes columns of the very rows that it selects, but none of those that decide
  something: a refresh changes neither the flight of a request nor its day nor its
  state.  So it changes neither which flights are looked up nor which requests another
  refresh reaches.  While the provider answers as before, a second pass looks up the same
  flights, reaches the same requests and writes onto each what stands there already; only
  the stamp is new.

  The refreshes of a pass are of different flights and reach different requests, so that
  any two of them can change places.
-/
import Mathlib.Algebra.GroupWithZero.Nat
import ShuttleDesk.Proofs.Desk.FlightPass
import ShuttleDesk.Store.Session

namespace ShuttleDesk

open Flight (Refresh)

variable {now later : Calendar.WallClock} {f g : Refresh}

/-! ### Two refreshes -/

theorem Flight.Refresh.flightNo_of_reaches {r : Request} (h : f.reaches r = true) :
    r.flightNo = f.flightNo := by
  rw [Refresh.reaches, Bool.and_eq_true, beq_iff_eq] at h
  exact h.1

/-- Refreshes of different flights reach different requests. -/
theorem Flight.Refresh.not_reaches_of_ne (hne : f.flightNo ≠ g.flightNo) (r : Request) :
    ¬ (f.reaches r = true ∧ g.reaches r = true) := by
  rintro ⟨hf, hg⟩
  exact hne ((flightNo_of_reaches hf).symm.trans (flightNo_of_reaches hg))

namespace Tables

theorem refresh_comm (hapart : ∀ r, ¬ (f.reaches r = true ∧ g.reaches r = true)) (t : Tables) :
    (t.refresh now f).refresh now g = (t.refresh now g).refresh now f := by
  have hrows : Requests.refreshed now [f, g] = Requests.refreshed now [g, f] := by
    funext r
    -- whether a request is reached does not depend on what was written onto it
    have hstill : ∀ h k : Refresh,
        h.reaches { Requests.withRefresh k r with updatedAt := now } = h.reaches r :=
      fun _ _ => rfl
    simp only [Requests.refreshed, List.foldl_cons, List.foldl_nil]
    by_cases hf : f.reaches r = true
    · have hg : g.reaches r = false := by
        rw [← Bool.not_eq_true]
        exact fun hg => hapart r ⟨hf, hg⟩
      simp [hf, hg, hstill]
    · by_cases hg : g.reaches r = true <;> simp [hf, hg, hstill]
  have hfg := t.refreshAll_eq now [f, g]
  have hgf := t.refreshAll_eq now [g, f]
  rw [hrows, ← hgf] at hfg
  exact hfg

theorem refreshAll_perm {fs order : List Refresh} (hperm : order.Perm fs)
    (hapart : (fs.map (·.flightNo)).Nodup) (t : Tables) :
    t.refreshAll now order = t.refreshAll now fs := by
  refine (hperm.symm.foldl_eq' ?_ t).symm
  intro f hf g hg t
  by_cases heq : f = g
  · rw [heq]
  · have hne : f.flightNo ≠ g.flightNo :=
      fun hsame => heq (List.inj_on_of_nodup_map hapart hf hg hsame)
    exact refresh_comm (Refresh.not_reaches_of_ne hne) t

end Tables

namespace Desk

open Flight Statement

variable {network : Network} {base : Option String} {b : String} {date : Calendar.Date}
  {w w' v : World} {report : SyncReport} {fs order : List Refresh} {n : Nat}

/-! ### Any order -/

theorem reached_eq_sum (t : Tables) :
    reached t now fs = (fs.map fun f => t.requests.countP f.reaches).sum := by
  induction fs generalizing t with
  | nil => rfl
  | cons f fs ih =>
    have hothers : ∀ g : Refresh, (t.refresh now f).requests.countP g.reaches
        = t.requests.countP g.reaches := fun _ => countP_refresh t fun _ => rfl
    rw [reached, ih, ← List.countP_eq_length_filter, List.map_cons, List.sum_cons]
    simp only [hothers]

theorem writeRefreshes_ok_iff_of_perm (hperm : order.Perm fs)
    (hapart : (fs.map (·.flightNo)).Nodup) :
    writeRefreshes order w = (.ok n, v) ↔ writeRefreshes fs w = (.ok n, v) := by
  rw [writeRefreshes_ok_iff, writeRefreshes_ok_iff, reachFree_iff, reachFree_iff, reached_eq_sum,
    reached_eq_sum, (hperm.map _).sum_nat, Tables.refreshAll_perm hperm hapart]
  simp only [hperm.mem_iff, List.eq_nil_iff_length_eq_zero, hperm.length_eq]

/-- Also refreshes that cannot be written are not written in any order. -/
theorem tables_writeRefreshes_of_perm (hperm : order.Perm fs)
    (hapart : (fs.map (·.flightNo)).Nodup) (w : World) :
    (writeRefreshes order w).2.tables = (writeRefreshes fs w).2.tables := by
  rcases hone : writeRefreshes order w with ⟨s | n, v⟩
  · rcases hother : writeRefreshes fs w with ⟨s' | n, v'⟩
    · exact (atomic_writeRefreshes order w s v hone).tables.trans
        (atomic_writeRefreshes fs w s' v' hother).tables.symm
    · rw [← writeRefreshes_ok_iff_of_perm hperm hapart, hone] at hother
      cases hother
  · rw [(writeRefreshes_ok_iff_of_perm hperm hapart).1 hone]

/-- What is found is found for one flight each. -/
theorem sublist_flightNo_refreshesOf (flights : List String) :
    ((refreshesOf (flights.map fun k => Flight.lookup network b k date)).map (·.flightNo)).Sublist
      flights := by
  induction flights with
  | nil => exact .slnil
  | cons k flights ih =>
    rw [List.map_cons]
    cases hl : Flight.lookup network b k date with
    | found f =>
      obtain ⟨hflight, -⟩ := of_lookup_found hl
      have hstep : ∀ ls, (refreshesOf (.found f :: ls)).map (·.flightNo)
          = f.flightNo :: (refreshesOf ls).map (·.flightNo) := fun _ => rfl
      rw [hstep, hflight]
      exact ih.cons_cons k
    | failed e => exact ih.cons k
    | pickupPastCalendar => exact ih.cons k

/-- The refreshes of a pass are of different flights. -/
theorem nodup_flightNo_refreshesOf (t : Tables) :
    ((refreshesOf (lookups network b date t)).map (·.flightNo)).Nodup :=
  (sublist_flightNo_refreshesOf _).nodup Tables.nodup_flightsOn

/-! ### Again -/

variable {r : Request}

@[simp] theorem awaitsFlight_synced (day : Calendar.Date) :
    Tables.awaitsFlight day (synced network b date now r) = Tables.awaitsFlight day r :=
  synced_column (Tables.awaitsFlight day) fun _ _ => rfl

@[simp] theorem id_synced : (synced network b date now r).id = r.id :=
  synced_column (·.id) fun _ _ => rfl

/-- A pass does not decide which flights are looked up next. -/
theorem flightsOn_synced (t : Tables) (day : Calendar.Date) :
    Tables.flightsOn { t with requests := t.requests.map (synced network b date now) } day
      = t.flightsOn day := by
  simp only [Tables.flightsOn, List.filter_map, List.map_map, Function.comp_def,
    awaitsFlight_synced, synced_flightNo]

/-- What is written the second time stands there already, but for the stamp. -/
theorem synced_again : ∃ stamp,
    synced network b date later (synced network b date now r)
      = { synced network b date now r with updatedAt := stamp } := by
  rcases synced_cases network b date now r with hleft | ⟨f, hfound, hawaits, hwritten⟩
  · rw [hleft]
    rcases synced_cases network b date later r with hagain | ⟨f, hfound, hawaits, -⟩
    · exact ⟨r.updatedAt, hagain⟩
    · -- a request that was left alone although its flight was found has the values already
      refine ⟨later, ?_⟩
      have hvalues := congrArg Request.details (hleft.symm.trans (synced_of_found hawaits hfound))
      rw [synced_of_found hawaits hfound]
      simp only [Request.details, NewRequest.mk.injEq, Requests.withRefresh] at hvalues ⊢
      obtain ⟨-, -, hterminal, -, -, harrival, hbuffer, hpickup⟩ := hvalues
      rw [← hterminal, ← harrival, ← hbuffer, ← hpickup]
  · have hawaits' : Tables.awaitsFlight date (synced network b date now r) = true := by
      rw [awaitsFlight_synced, hawaits]
    have hfound' : Flight.lookup network b (synced network b date now r).flightNo date
        = .found f := by
      rw [synced_flightNo, hfound]
    refine ⟨later, ?_⟩
    rw [synced_of_found hawaits' hfound', hwritten]
    rfl

/-- A pass changes neither which flights are asked about nor what is learnt about them. -/
theorem lookups_synced (t : Tables) :
    lookups network b date { t with requests := t.requests.map (synced network b date now) }
      = lookups network b date t := by
  rw [lookups, lookups, flightsOn_synced]

@[simp] theorem isRefreshed_synced :
    isRefreshed network b date (synced network b date now r) = isRefreshed network b date r := by
  rw [isRefreshed, isRefreshed, awaitsFlight_synced, synced_flightNo]

/-- The rows that refreshes reach are the same after a pass, and as free as before. -/
theorem areFree_synced (hheld : v.heldRequests = w.heldRequests)
    (hrows : v.tables.requests = w.tables.requests.map (synced network b date now))
    (h : Requests.AreFree w f.reaches) : Requests.AreFree v f.reaches := by
  intro r hr hreaches
  rw [hrows, List.mem_map] at hr
  obtain ⟨s, hs, rfl⟩ := hr
  rw [id_synced, hheld]
  rw [Refresh.reaches, synced_flightNo, awaitsFlight_synced] at hreaches
  exact h s hs hreaches

theorem reached_lookups_synced (t : Tables) :
    reached { t with requests := t.requests.map (synced network b date now) } later
        (refreshesOf (lookups network b date t))
      = reached t now (refreshesOf (lookups network b date t)) := by
  rw [← lookups_synced t, reached_lookups, lookups_synced, reached_lookups, List.countP_map]
  congr 1
  funext r
  exact isRefreshed_synced

theorem eq_withTables_of_syncDate_ok (hbase : baseOf base = some b)
    (h : syncDate network base date w = (.ok report, w')) :
    w' = w.withTables
      { w.tables with requests := w.tables.requests.map (synced network b date w.now) } := by
  obtain ⟨-, -, -, n, hwrite, -⟩ := (syncDate_ok_iff_of_base hbase).1 h
  obtain ⟨-, -, -, hw'⟩ := writeRefreshes_ok_iff.1 hwrite
  rw [← hw', refreshAll_lookups]

/-- A pass that ended with a report ends with the same one when it is made again. -/
theorem syncDate_again (hbase : baseOf base = some b)
    (h : syncDate network base date w = (.ok report, w')) :
    syncDate network base date (w'.atTime later) =
      (.ok report, (w'.atTime later).withTables { w'.tables with
        requests := w'.tables.requests.map (synced network b date later) }) := by
  obtain rfl := eq_withTables_of_syncDate_ok hbase h
  obtain ⟨hopen, hdate, hpast, n, hwrite, rfl⟩ := (syncDate_ok_iff_of_base hbase).1 h
  obtain ⟨-, hfree, hn, -⟩ := writeRefreshes_ok_iff.1 hwrite
  rw [World.withTables_tables]
  generalize hafter : { w.tables with requests := w.tables.requests.map (synced network b date w.now) }
    = after at *
  have hlookups : lookups network b date after = lookups network b date w.tables := by
    rw [← hafter]
    exact lookups_synced w.tables
  have hfree' : ReachFree ((w.withTables after).atTime later)
      (refreshesOf (lookups network b date w.tables)) := by
    refine reachFree_iff.2 fun f hf => ?_
    obtain ⟨hstorable, hreached⟩ := reachFree_iff.1 hfree f hf
    have hheld : ((w.withTables after).atTime later).heldRequests = w.heldRequests := rfl
    have hrows : after.requests = w.tables.requests.map (synced network b date w.now) := by
      rw [← hafter]
    exact ⟨hstorable, areFree_synced hheld hrows hreached⟩
  have hn' : reached after later (refreshesOf (lookups network b date w.tables)) = n := by
    rw [← hafter, ← hn]
    exact reached_lookups_synced w.tables
  have htables : after.refreshAll later (refreshesOf (lookups network b date w.tables))
      = { after with requests := after.requests.map (synced network b date later) } := by
    rw [← hlookups, refreshAll_lookups]
  refine (syncDate_ok_iff_of_base hbase).2 ⟨hopen, hdate, hlookups ▸ hpast, n, ?_, ?_⟩
  · change writeRefreshes (refreshesOf (lookups network b date after)) _ = _
    rw [hlookups, ← htables]
    exact writeRefreshes_ok_iff.2 ⟨.inr hopen, hfree', hn', rfl⟩
  · change _ = SyncReport.mk false (after.flightsOn date).length
      ((lookups network b date after).filter isFailed).length n
    rw [hlookups, ← hafter, flightsOn_synced]

theorem asked_again (hbase : baseOf base = some b)
    (h : syncDate network base date w = (.ok report, w')) :
    asked network base date (w'.atTime later) = asked network base date w := by
  obtain rfl := eq_withTables_of_syncDate_ok hbase h
  obtain ⟨hopen, hdate, -⟩ := (syncDate_ok_iff_of_base hbase).1 h
  have hread := Requests.flightsOn_ok_iff.2 ⟨hopen, hdate, rfl, rfl⟩
  have hread' : Requests.flightsOn date ((w.withTables { w.tables with
        requests := w.tables.requests.map (synced network b date w.now) }).atTime later)
      = (.ok (w.tables.flightsOn date), _) :=
    Requests.flightsOn_ok_iff.2 ⟨hopen, hdate, flightsOn_synced w.tables date, rfl⟩
  simp only [asked, hbase, hread, hread']

/-- While the provider answers alike, a pass that ended with a report ends with the same one when
it is made again right after: it asks the same addresses and changes nothing but stamps.  And the
refreshes of a pass, which are of different flights and so reach different requests, leave the same
tables in every order. -/
theorem syncDate_repeats (network : Network) (base : Option String) (date : Calendar.Date)
    (w : World) :
    (∀ report w' later, syncDate network base date w = (.ok report, w') →
      asked network base date (w'.atTime later) = asked network base date w ∧
      ∃ rows, syncDate network base date (w'.atTime later) =
          (.ok report, (w'.atTime later).withTables { w'.tables with requests := rows }) ∧
        List.Forall₂ (fun r r' => r' = { r with updatedAt := r'.updatedAt })
          w'.tables.requests rows) ∧
    ∀ b, baseOf base = some b →
      let refreshes := refreshesOf (lookups network b date w.tables)
      (refreshes.map (·.flightNo)).Nodup ∧
      refreshes.Pairwise (fun f g => ∀ r, ¬ (f.reaches r = true ∧ g.reaches r = true)) ∧
      ∀ order, order.Perm refreshes →
        (writeRefreshes order w).2.tables = (writeRefreshes refreshes w).2.tables ∧
        ∀ n v, writeRefreshes order w = (.ok n, v) ↔ writeRefreshes refreshes w = (.ok n, v) := by
  constructor
  · intro report w' later h
    cases hbase : baseOf base with
    | none =>
      rcases syncDate_ok_iff.1 h with ⟨-, rfl, rfl⟩ | ⟨b, hb, -⟩
      · refine ⟨by simp only [asked, hbase], w.tables.requests, ?_, ?_⟩
        · exact syncDate_ok_iff.2 (.inl ⟨hbase, rfl, rfl⟩)
        · exact List.forall₂_same.2 fun _ _ => rfl
      · rw [hbase] at hb
        cases hb
    | some b =>
      refine ⟨asked_again hbase h, _, syncDate_again hbase h, ?_⟩
      obtain ⟨-, -, htables⟩ := of_syncDate_ok hbase h
      rw [List.forall₂_map_right_iff, List.forall₂_same, htables, List.forall_mem_map]
      intro r _
      obtain ⟨stamp, hstamp⟩ : ∃ stamp,
          synced network b date later (synced network b date w.now r)
            = { synced network b date w.now r with updatedAt := stamp } := synced_again
      rw [hstamp]
  · intro b _ refreshes
    have hapart : (refreshes.map (·.flightNo)).Nodup := nodup_flightNo_refreshesOf w.tables
    refine ⟨hapart, ?_, ?_⟩
    · exact (List.pairwise_map.1 hapart).imp fun hne => Refresh.not_reaches_of_ne hne
    · intro order hperm
      exact ⟨tables_writeRefreshes_of_perm hperm hapart w,
        fun n v => writeRefreshes_ok_iff_of_perm hperm hapart⟩

/-- Two flights are brought up to date, and a minute later they are again. -/
theorem syncDate_repeats_for_twoFlights :
    let w := worldAfter 0 twoFlights smallDesk
    let network := twoReplies (arrivingAt "2026-03-01 12:00:00") (arrivingAt "2026-03-01 13:00:00")
    let refreshes := refreshesOf (lookups network "http://flights" arrivalDay w.tables)
    ∃ report w', syncDate network (some "http://flights/") arrivalDay w = (.ok report, w') ∧
      report.requestsUpdated = 2 ∧
      (∃ rows, syncDate network (some "http://flights/") arrivalDay (w'.atTime ⟨60⟩) =
          (.ok report, (w'.atTime ⟨60⟩).withTables { w'.tables with requests := rows }) ∧
        List.Forall₂ (fun r r' => r' = { r with updatedAt := r'.updatedAt })
          w'.tables.requests rows) ∧
      (writeRefreshes refreshes.reverse w).2.tables = (writeRefreshes refreshes w).2.tables := by
  intro w network refreshes
  have hbase : baseOf (some "http://flights/") = some "http://flights" := by decide +kernel
  obtain ⟨report, w', h, -⟩ := exists_syncDate_report (by decide +kernel : w.isOpen = true)
    (by decide +kernel) hbase (by decide +kernel : Storable [.date arrivalDay])
    (by decide +kernel : ∀ r ∈ w.tables.requests,
      isUsable (Flight.lookup network _ r.flightNo arrivalDay) = true ∨
        isFailed (Flight.lookup network _ r.flightNo arrivalDay) = true)
  obtain ⟨hagain, horder⟩ := syncDate_repeats network (some "http://flights/") arrivalDay w
  obtain ⟨-, hrows⟩ := hagain report w' ⟨60⟩ h
  obtain ⟨-, -, hany⟩ := horder "http://flights" hbase
  refine ⟨report, w', h, ?_, hrows, (hany _ refreshes.reverse_perm).1⟩
  obtain ⟨-, -, -, n, hwrite, rfl⟩ := (syncDate_ok_iff_of_base hbase).1 h
  obtain ⟨-, -, hn, -⟩ := writeRefreshes_ok_iff.1 hwrite
  rw [reached_lookups] at hn
  rw [← hn]
  decide +kernel

end Desk
end ShuttleDesk
