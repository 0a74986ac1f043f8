/-
  ShuttleDesk/Proofs/Desk/StoredRules.lean
  ========================================
  The rules of a new request hold of every request that is stored: the flight number has
  1 to 20 characters, the terminal has 1 to 10, and no count of bags is negative.  What
  riders send is checked, field by field, before it is written.

  The terminal has a third writer.  A pass over the flights writes what the provider
  says without the blanks around it, and looks only whether something is left.  So the
  one rule that can fail is the greatest length of a terminal, and only for a terminal
  that a provider has named.
-/
import ShuttleDesk.Proofs.Desk.Timing
import ShuttleDesk.Proofs.Input.Edits

namespace ShuttleDesk

open FieldRule

/-- The rules of a new request, but that a terminal of these others may have any length. -/
structure Request.Obeys (others : String → Prop) (r : Request) : Prop where
  flightNo : 1 ≤ r.flightNo.length ∧ r.flightNo.length ≤ 20
  terminal : 1 ≤ r.terminal.length ∧ (r.terminal.length ≤ 10 ∨ others r.terminal)
  checkedBags : 0 ≤ r.checkedBags
  carryOnBags : 0 ≤ r.carryOnBags

namespace Request.Obeys

variable {others more : String → Prop} {r r' : Request}

theorem mono (h : r.Obeys others) (hmore : ∀ s, others s → more s) : r.Obeys more :=
  { h with terminal := ⟨h.terminal.1, h.terminal.2.imp_right (hmore _)⟩ }

theorem of_details (h : r.Obeys others) (hdetails : r'.details = r.details) :
    r'.Obeys others := by
  simp only [Request.details, NewRequest.mk.injEq] at hdetails
  obtain ⟨hflight, -, hterminal, hchecked, hcarryOn, -⟩ := hdetails
  constructor
  · rw [hflight]
    exact h.flightNo
  · rw [hterminal]
    exact h.terminal
  · rw [hchecked]
    exact h.checkedBags
  · rw [hcarryOn]
    exact h.carryOnBags

end Request.Obeys

theorem FieldRule.hasLength_iff {greatest : Nat} {s : String} :
    hasLength greatest s = true ↔ 1 ≤ s.length ∧ s.length ≤ greatest := by
  simp [hasLength]

theorem FieldRule.isCount_iff {n : Int} : isCount n = true ↔ 0 ≤ n := decide_eq_true_iff

namespace Desk

variable {others : String → Prop}

/-! ### The three writers -/

theorem obeys_ofNew {input : RequestInput} {date : Calendar.Date} {arrival : Calendar.DateTime}
    {values : NewRequest} {id rider : Int} {now : Calendar.WallClock}
    (hvalid : input.validate = .ok ()) (h : newRequest? input date arrival = some values) :
    (Requests.ofNew id rider values now).Obeys others := by
  obtain ⟨pickup, -, h⟩ := Option.bind_eq_some_iff.1 h
  cases h
  obtain ⟨hcarryOn, hchecked, hflight, hterminal⟩ := check_broken_ok_iff.1 hvalid
  obtain ⟨hpresent, hshort⟩ := hasLength_iff.1 hterminal
  exact ⟨hasLength_iff.1 hflight, ⟨hpresent, .inl hshort⟩, isCount_iff.1 hchecked,
    isCount_iff.1 hcarryOn⟩

/-- A field that is given obeys its rule, and one that is not given did before. -/
theorem obeys_after? {edit : RequestEdit} {change : RequestChange} {row after : Request}
    (h : row.Obeys others) (hvalid : edit.validate = .ok ())
    (hchange : RequestChange.ofEdit edit = .ok change) (hafter : change.after? row = some after) :
    after.Obeys others := by
  obtain ⟨pickup, -, hafter⟩ := Option.bind_eq_some_iff.1 hafter
  cases hafter
  obtain ⟨_, -, hchange⟩ := except_bind_ok_iff.1 hchange
  obtain ⟨_, -, hchange⟩ := except_bind_ok_iff.1 hchange
  cases hchange
  obtain ⟨hcarryOn, hchecked, hflight, hterminal⟩ := check_broken_ok_iff.1 hvalid
  have hfield : ∀ {α : Type} {rule : α → Bool} {p : α → Prop} {a : Option α} {b : α},
      a.all rule = true → (∀ a, rule a = true → p a) → p b → p (a.getD b) := by
    intro α rule p a b ha hp hb
    cases a with
    | none => exact hb
    | some a => exact hp a ha
  constructor
  case flightNo => exact hfield hflight (fun _ => hasLength_iff.1) h.flightNo
  case terminal =>
    refine hfield (p := fun s => 1 ≤ s.length ∧ (s.length ≤ 10 ∨ others s)) hterminal ?_ h.terminal
    intro s hs
    exact (hasLength_iff.1 hs).imp_right .inl
  case checkedBags => exact hfield hchecked (fun _ => isCount_iff.1) h.checkedBags
  case carryOnBags => exact hfield hcarryOn (fun _ => isCount_iff.1) h.carryOnBags

/-- The terminal of a refresh is not empty; that is all that is asked of it. -/
theorem terminal_of_lookup {network : Flight.Network} {b flightNo : String} {date : Calendar.Date}
    {f : Flight.Refresh} (h : Flight.lookup network b flightNo date = .found f) :
    1 ≤ f.terminal.length := by
  obtain ⟨info, hinfo⟩ := ofInfo_of_lookup h
  have hnamed := (Flight.Refresh.isMadeOf hinfo).named
  exact Nat.one_le_iff_ne_zero.2 (mt String.length_eq_zero_iff.1 hnamed)

theorem obeys_withRefresh {f : Flight.Refresh} {r : Request} (h : r.Obeys others)
    (hpresent : 1 ≤ f.terminal.length) (hother : others f.terminal) :
    (Requests.withRefresh f r).Obeys others :=
  { h with terminal := ⟨hpresent, .inr hother⟩ }

/-! ### Runs -/

/-- The entry is a pass that went through, whose provider has named the terminal for a flight. -/
def Entry.Names (e : Entry) (terminal : String) : Prop :=
  ∃ network base date b flightNo f, e.call = .syncFlights network base date ∧
    e.outcome.isOk = true ∧ Flight.baseOf base = some b ∧
    Flight.lookup network b flightNo date = .found f ∧ f.terminal = terminal

/-- A call keeps the rules, if the terminals that it brings are among the others. -/
theorem Effect.obeys {w : World} {e : Entry} (he : Effect w e.call e.outcome e.after)
    (h : ∀ r ∈ w.tables.requests, r.Obeys others) (hnames : ∀ s, e.Names s → others s) :
    ∀ r ∈ e.after.tables.requests, r.Obeys others := by
  obtain ⟨c, o, w'⟩ := e
  -- a change of states does not write what the rules are about
  have hstatus : ∀ {t : Tables} {chosen : Request → Bool} {status : RequestStatus},
      t.requests = w.tables.requests →
      ∀ r ∈ (t.editRequests w.now chosen fun r => { r with status }).requests, r.Obeys others := by
    intro t chosen status hrequests
    have ht : ∀ r ∈ t.requests, r.Obeys others := by
      rw [hrequests]
      exact h
    refine forall_mem_updateWhere ht ?_
    intro r hr _
    exact (ht r hr).of_details rfl
  cases he with
  | stopped kept =>
    rw [kept.tables]
    exact h
  | requestMade alone valid dateRead arrivalRead timed storable bags known row =>
    subst row
    exact forall_mem_append_one h (obeys_ofNew valid timed)
  | @detailsSaved rider request edit change row after r owned pending valid changeRead timed =>
    obtain ⟨hrow, -⟩ := Option.filter_eq_some_iff.1 owned
    have hafter : after.Obeys others :=
      obeys_after? (h row (Tables.mem_of_request? hrow).1) valid changeRead timed
    refine forall_mem_updateWhere h ?_
    intro r _ _
    exact hafter.of_details rfl
  | @bound shift request => exact hstatus (t := w.tables.bind shift request) rfl
  | @unbound shift request => exact hstatus (t := w.tables.unbind shift request) rfl
  | @published shift => exact hstatus (t := w.tables.publishShift shift) rfl
  | @synced network base date b set inCalendar =>
    refine Tables.refreshAll_induction
      (p := fun t => ∀ r ∈ t.requests, r.Obeys others) ?_ h
    intro t f hf ht
    obtain ⟨flightNo, hfound⟩ := lookup_of_mem_refreshesOf hf
    have hother : others f.terminal :=
      hnames _ ⟨network, base, date, b, flightNo, f, rfl, rfl, set, hfound, rfl⟩
    refine forall_mem_updateWhere ht ?_
    intro r hr _
    exact (obeys_withRefresh (ht r hr) (terminal_of_lookup hfound) hother).of_details rfl
  | _ => exact h

/-- Starting without requests, every request that is stored after any calls has a flight number of
1 to 20 characters, a terminal of 1 to 10 characters and no negative count of bags, with one
exception: a terminal may be longer if a pass that went through has it from the provider. -/
theorem stored_requests_obey (timeout : Int) (cs : List TimedCall) (w : World)
    (hnone : w.tables.requests = []) :
    ∀ r ∈ (worldAfter timeout cs w).tables.requests,
      (1 ≤ r.flightNo.length ∧ r.flightNo.length ≤ 20) ∧ 1 ≤ r.terminal.length ∧
      0 ≤ r.checkedBags ∧ 0 ≤ r.carryOnBags ∧
      (r.terminal.length ≤ 10 ∨ ∃ e ∈ journal timeout cs w, e.Names r.terminal) := by
  have hbegin : ∀ r ∈ w.tables.requests, r.Obeys fun s => ∃ e ∈ ([] : List Entry), e.Names s := by
    simp [hnone]
  have hobey : ∀ r ∈ (worldAfter timeout cs w).tables.requests,
      r.Obeys fun s => ∃ e ∈ journal timeout cs w, e.Names s := by
    refine journal_induction
      (p := fun w es => ∀ r ∈ w.tables.requests, r.Obeys fun s => ∃ e ∈ es, e.Names s)
      (fun _ _ _ h => h) ?_ cs hbegin
    intro w es e he h
    apply he.obeys
    · intro r hr
      apply (h r hr).mono
      rintro s ⟨e', he', hs⟩
      exact ⟨e', List.mem_append_left _ he', hs⟩
    · intro s hs
      exact ⟨e, List.mem_append_right _ (List.mem_singleton.2 rfl), hs⟩
  intro r hr
  obtain ⟨hflight, ⟨hpresent, hterminal⟩, hchecked, hcarryOn⟩ := hobey r hr
  exact ⟨hflight, hpresent, hchecked, hcarryOn, hterminal⟩

/-- A provider that writes terminals out. -/
def wordyNetwork : Flight.Network := fun _ =>
  .answer 200 (Utf8.ofString
    "\x7b\"terminal\": \"Terminal 3E\", \"arrival_time\": \"2026-03-01 12:00:00\"\x7d")

/-- A request is made and brought up to date. -/
def wordyPass : List TimedCall :=
  [smallRequest, .syncFlights wordyNetwork (some "http://flights") arrivalDay].map .undisturbed

theorem stored_requests_obey_after_pass :
    smallDesk.tables.requests = [] ∧
    ∃ r ∈ (worldAfter 0 wordyPass smallDesk).tables.requests,
      (r.flightNo, r.terminal, r.checkedBags, r.carryOnBags) = ("CA1", "Terminal 3E", 1, 2) ∧
      ∃ e ∈ journal 0 wordyPass smallDesk, e.Names "Terminal 3E" := by
  have hrows : (worldAfter 0 wordyPass smallDesk).tables.requests.map
      (fun r => (r.flightNo, r.terminal, r.checkedBags, r.carryOnBags))
        = [("CA1", "Terminal 3E", 1, 2)] := by decide +kernel
  obtain ⟨r, hr, hcolumns⟩ := List.mem_map.1 (hrows ▸ List.mem_singleton.2 rfl)
  obtain ⟨-, -, -, -, hterminal⟩ := stored_requests_obey 0 wordyPass smallDesk rfl r hr
  have hname : r.terminal = "Terminal 3E" := congrArg (·.2.1) hcolumns
  rw [hname] at hterminal
  exact ⟨rfl, r, hr, hcolumns, hterminal.resolve_left (by decide)⟩

/-- A terminal of eleven characters can be stored. -/
theorem long_terminal_is_stored :
    ¬ ∀ (timeout : Int) (cs : List TimedCall) (w : World), w.tables.requests = [] →
      ∀ r ∈ (worldAfter timeout cs w).tables.requests,
        1 ≤ r.terminal.length ∧ r.terminal.length ≤ 10 := by
  intro h
  have hshort : (worldAfter 0 wordyPass smallDesk).tables.requests.all
      (fun r => decide (r.terminal.length ≤ 10)) = true := by
    rw [List.all_eq_true]
    intro r hr
    exact decide_eq_true (h 0 wordyPass smallDesk rfl r hr).2
  have hlong : (worldAfter 0 wordyPass smallDesk).tables.requests.all
      (fun r => decide (r.terminal.length ≤ 10)) = false := by decide +kernel
  rw [hlong] at hshort
  cases hshort

end Desk
end ShuttleDesk
