/-
  ShuttleDesk/Proofs/Desk/BindingHistory.lean
  ===========================================
  What happens to one request in the course of a run.  It is bound and unbound in
  turns, each time it is unbound from the shift that it was bound to, and once it has
  been published with its shift it is neither bound nor unbound again.

  The history of a request is read off the outcomes of the calls; the proof follows
  the bindings in the tables.  Whatever calls come in between, the history always leads
  from what the request was bound to at the beginning to what it is bound to now.
-/
import ShuttleDesk.Proofs.Desk.Booking

namespace ShuttleDesk

namespace Tables

variable {t t' : Tables} {request shift : Int}

/-- The shift that a request is bound to. -/
def boundTo (t : Tables) (request : Int) : Option Int :=
  (t.bindingsOf request).head?.map (·.shiftId)

theorem boundTo_eq_none_iff : t.boundTo request = none ↔ request ∉ t.boundIds := by
  rw [← bindingsOf_eq_nil_iff, boundTo, Option.map_eq_none_iff, List.head?_eq_none_iff]

theorem boundTo_eq_some_iff (h : t.Lawful) :
    t.boundTo request = some shift ↔ t.isBound shift request = true := by
  have hsome : ∀ {s}, t.boundTo request = some s → t.isBound s request = true := by
    intro s hs
    rw [boundTo, Option.map_eq_some_iff] at hs
    obtain ⟨b, hb, rfl⟩ := hs
    obtain ⟨hmem, hid⟩ := List.mem_filter.1 (List.mem_of_head? hb)
    rw [isBound_iff, ← beq_iff_eq.1 hid]
    exact hmem
  refine ⟨hsome, fun hbound => ?_⟩
  cases hs : t.boundTo request with
  | none => exact absurd (mem_boundIds_of_isBound hbound) (boundTo_eq_none_iff.1 hs)
  | some s => rw [h.shift_unique (hsome hs) hbound]

theorem boundTo_congr (h : t.Lawful) (h' : t'.Lawful)
    (hsame : ∀ s, t'.isBound s request = t.isBound s request) :
    t'.boundTo request = t.boundTo request := by
  apply Option.ext
  intro s
  rw [boundTo_eq_some_iff h', boundTo_eq_some_iff h, hsame]

theorem bindings_refreshAll {now : Calendar.WallClock} (fs : List Flight.Refresh) :
    (t.refreshAll now fs).bindings = t.bindings := by
  rw [refreshAll_eq]

/-- The request is there, and it is published. -/
def IsPublished (t : Tables) (request : Int) : Prop :=
  ∃ r, t.request? request = some r ∧ r.status = .published

theorem IsPublished.of_requests_eq (h : t.IsPublished request)
    (hr : t'.requests = t.requests) : t'.IsPublished request := by
  unfold IsPublished request? at *
  rw [hr]
  exact h

theorem IsPublished.addRequest {r : Request} (h : t.IsPublished request) :
    (t.addRequest r).IsPublished request := by
  obtain ⟨row, hrow, hpublished⟩ := h
  refine ⟨row, ?_, hpublished⟩
  unfold request? at hrow ⊢
  rw [Tables.addRequest, List.find?_append, hrow]
  rfl

theorem IsPublished.editRequests {now : Calendar.WallClock} {chosen : Request → Bool}
    {edit : Request → Request} (h : t.IsPublished request) (hid : ∀ r, (edit r).id = r.id)
    (hstatus : ∀ r, r.id = request → chosen r = true → r.status = .published →
      (edit r).status = .published) :
    (t.editRequests now chosen edit).IsPublished request := by
  obtain ⟨row, hrow, hpublished⟩ := h
  refine ⟨_, by rw [request?_editRequests hid, hrow]; rfl, ?_⟩
  by_cases hc : chosen row = true
  · simpa [hc] using hstatus row (mem_of_request? hrow).2 hc hpublished
  · simpa [hc] using hpublished

theorem IsPublished.setStatus_of_ne {now : Calendar.WallClock} {r : Int} {status : RequestStatus}
    (h : t.IsPublished request) (hr : r ≠ request) :
    (t.setStatus now r status).IsPublished request := by
  refine h.editRequests (fun _ => rfl) ?_
  intro row hid hchosen
  exact absurd ((beq_iff_eq.1 hchosen).symm.trans hid) hr

/-- What is found and not published is another request. -/
theorem IsPublished.ne_of_request? {r : Int} {row : Request} (h : t.IsPublished request)
    (hrow : t.request? r = some row) (hstatus : row.status ≠ .published) : r ≠ request := by
  rintro rfl
  obtain ⟨row', hrow', hpublished⟩ := h
  rw [hrow, Option.some.injEq] at hrow'
  exact hstatus (hrow' ▸ hpublished)

theorem IsPublished.refreshAll {now : Calendar.WallClock} (h : t.IsPublished request)
    (fs : List Flight.Refresh) : (t.refreshAll now fs).IsPublished request := by
  refine refreshAll_induction (p := fun u => u.IsPublished request) ?_ h
  intro t f _ h
  exact h.editRequests (fun _ => rfl) fun _ _ _ hr => hr

/-- Publishing a shift publishes what is bound to it. -/
theorem isPublished_publish {now : Calendar.WallClock} (h : t.Lawful)
    (hbound : t.isBound shift request = true) :
    ((t.publishShift shift).publishOn now shift).IsPublished request := by
  obtain ⟨row, hrow⟩ := Option.isSome_iff_exists.1
    (request?_isSome_iff.2 (h.bindings _ (isBound_iff.1 hbound)).2)
  have hchosen : (t.publishShift shift).isBound shift row.id = true := by
    rw [(mem_of_request? hrow).2]
    exact hbound
  have hrow' : (t.publishShift shift).request? request = some row := hrow
  refine ⟨{ row with status := .published, updatedAt := now }, ?_, rfl⟩
  have hid : ∀ r : Request, ({ r with status := .published } : Request).id = r.id := fun _ => rfl
  rw [publishOn, request?_editRequests hid, hrow']
  simp [hchosen]

end Tables

namespace Desk

open Tables

/-! ### Histories -/

/-- A request is bound to a shift or unbound from it. -/
inductive BindingEvent where
  | bound (shift : Int)
  | unbound (shift : Int)
  deriving DecidableEq, Repr

def BindingEvent.isBound : BindingEvent → Bool
  | .bound _ => true
  | .unbound _ => false

/-- What a call with an outcome does to a request: nothing, if it fails. -/
def bindingEvent? (request : Int) : Call → Outcome → Option BindingEvent
  | .assign shift r, .ok _ => if r = request then some (.bound shift) else none
  | .unassign shift r, .ok _ => if r = request then some (.unbound shift) else none
  | _, _ => none

/-- How a request was bound and unbound by the calls of a journal, in order. -/
def bindingHistory (request : Int) (es : List Entry) : List BindingEvent :=
  es.filterMap fun e => bindingEvent? request e.call e.outcome

theorem bindingHistory_cons (request : Int) (e : Entry) (es : List Entry) :
    bindingHistory request (e :: es)
      = (bindingEvent? request e.call e.outcome).toList ++ bindingHistory request es := by
  rw [bindingHistory, List.filterMap_cons]
  cases bindingEvent? request e.call e.outcome <;> rfl

/-- The history binds and unbinds in turns, and each time unbinds from the shift that was bound
just before.  It leads from one binding, or none, to another. -/
inductive Alternates : Option Int → List BindingEvent → Option Int → Prop where
  | nil {a : Option Int} : Alternates a [] a
  | bound {shift : Int} {es : List BindingEvent} {b : Option Int}
      (rest : Alternates (some shift) es b) : Alternates none (.bound shift :: es) b
  | unbound {shift : Int} {es : List BindingEvent} {b : Option Int}
      (rest : Alternates none es b) : Alternates (some shift) (.unbound shift :: es) b

namespace Alternates

variable {a b c : Option Int} {es fs : List BindingEvent}

theorem append (h : Alternates a es b) (k : Alternates b fs c) : Alternates a (es ++ fs) c := by
  induction h with
  | nil => exact k
  | bound rest ih => exact .bound (ih k)
  | unbound rest ih => exact .unbound (ih k)

/-- What is bound in the end was bound in the beginning, or bound and not unbound since. -/
theorem count (h : Alternates a es b) :
    b.toList.length + es.countP (!·.isBound) = a.toList.length + es.countP (·.isBound) := by
  induction h with
  | nil => rfl
  | bound rest ih =>
    simp only [Option.toList_some, List.length_singleton, Option.toList_none, List.length_nil,
      List.countP_cons, BindingEvent.isBound, Bool.not_true, Bool.false_eq_true, if_false,
      if_true] at ih ⊢
    omega
  | unbound rest ih =>
    simp only [Option.toList_some, List.length_singleton, Option.toList_none, List.length_nil,
      List.countP_cons, BindingEvent.isBound, Bool.not_false, Bool.false_eq_true, if_false,
      if_true] at ih ⊢
    omega

/-- Without unbinding, a request is bound once at most. -/
theorem length_le_one (h : Alternates a es b) (hnone : ∀ s, .unbound s ∉ es) : es.length ≤ 1 := by
  cases h with
  | nil => exact Nat.zero_le 1
  | bound rest =>
    cases rest with
    | nil => exact Nat.le_refl 1
    | unbound rest => exact absurd (List.mem_cons_of_mem _ List.mem_cons_self) (hnone _)
  | unbound rest => exact absurd List.mem_cons_self (hnone _)

end Alternates

/-! ### One call -/

/-- Only a binding or an unbinding changes what a request is bound to. -/
theorem Effect.isBound_eq {w w' : World} {c : Call} {o : Outcome} (h : Effect w c o w')
    {request : Int} (hno : bindingEvent? request c o = none) (s : Int) :
    w'.tables.isBound s request = w.tables.isBound s request := by
  cases h with
  | stopped kept => rw [kept.tables]
  | @bound shift r =>
    have hr : r ≠ request := by
      intro hr
      simp [bindingEvent?, hr] at hno
    exact isBound_bind_of_ne (Ne.symm hr)
  | @unbound shift r =>
    have hr : r ≠ request := by
      intro hr
      simp [bindingEvent?, hr] at hno
    exact isBound_unbind_of_ne (Ne.symm hr)
  | synced set inCalendar => rw [World.withTables_tables, isBound, bindings_refreshAll, ← isBound]
  | _ => rfl

/-- A call binds and unbinds a request in turn with the calls before it. -/
theorem Effect.alternates {w w' : World} {c : Call} {o : Outcome} (h : Effect w c o w')
    (hw : w.Sound) (request : Int) :
    Alternates (w.tables.boundTo request) (bindingEvent? request c o).toList
      (w'.tables.boundTo request) := by
  have hw' := h.sound hw
  cases hevent : bindingEvent? request c o with
  | none =>
    rw [boundTo_congr hw.lawful hw'.lawful (h.isBound_eq hevent)]
    exact .nil
  | some event =>
    cases h with
    | @bound shift r locked row found row? pending free shift? =>
      simp only [bindingEvent?, Option.ite_none_right_eq_some, Option.some.injEq] at hevent
      obtain ⟨rfl, rfl⟩ := hevent
      have hbefore : w.tables.boundTo r = none :=
        boundTo_eq_none_iff.2 (bindingsOf_eq_nil_iff.1 free)
      have hafter : ((w.tables.bind shift r).setStatus w.now r .assigned).boundTo r
          = some shift := by
        rw [boundTo_eq_some_iff (by exact hw'.lawful), isBound_iff]
        exact List.mem_append_right _ (List.mem_singleton.2 rfl)
      rw [hbefore, World.withTables_tables, hafter]
      exact .bound .nil
    | @unbound shift r s row shift? row? unpublished bound =>
      simp only [bindingEvent?, Option.ite_none_right_eq_some, Option.some.injEq] at hevent
      obtain ⟨rfl, rfl⟩ := hevent
      have hbefore := (boundTo_eq_some_iff hw.lawful).2 bound
      have hafter := boundTo_eq_none_iff.2 (not_mem_boundIds_unbind hw.lawful bound)
      rw [hbefore]
      exact .unbound (hafter ▸ .nil)
    | @viewed c a view => cases c <;> simp [Call.isView, bindingEvent?] at view hevent
    | _ => simp [bindingEvent?] at hevent

/-- A published request is neither bound nor unbound, and it stays published. -/
theorem Effect.isPublished {w w' : World} {c : Call} {o : Outcome} (h : Effect w c o w')
    {request : Int} (hp : w.tables.IsPublished request) :
    w'.tables.IsPublished request ∧ bindingEvent? request c o = none := by
  cases h with
  | stopped kept =>
    refine ⟨kept.tables ▸ hp, ?_⟩
    cases c <;> rfl
  | @viewed c a view => exact ⟨hp, by cases c <;> first | rfl | cases view⟩
  | requestMade => exact ⟨hp.addRequest, rfl⟩
  | @detailsSaved rider edited edit change row after =>
    have hkept : (w.tables.editDetails w.now after).IsPublished request :=
      hp.editRequests (fun _ => rfl) fun _ _ _ hr => hr
    exact ⟨hkept, rfl⟩
  | @bound shift r locked row found row? pending free shift? =>
    have hr : r ≠ request := hp.ne_of_request? row? (by rw [pending]; decide)
    have hbind : (w.tables.bind shift r).IsPublished request := hp.of_requests_eq rfl
    exact ⟨hbind.setStatus_of_ne hr, by simp [bindingEvent?, hr]⟩
  | @unbound shift r s row shift? row? unpublished bound =>
    have hr : r ≠ request := hp.ne_of_request? row? unpublished
    have hunbind : (w.tables.unbind shift r).IsPublished request := hp.of_requests_eq rfl
    exact ⟨hunbind.setStatus_of_ne hr, by simp [bindingEvent?, hr]⟩
  | @published shift s shift? =>
    have hshift : (w.tables.publishShift shift).IsPublished request := hp.of_requests_eq rfl
    have hkept : ((w.tables.publishShift shift).publishOn w.now shift).IsPublished request :=
      hshift.editRequests (fun _ => rfl) fun _ _ _ _ => rfl
    exact ⟨hkept, rfl⟩
  | synced => exact ⟨hp.refreshAll _, rfl⟩
  | _ => exact ⟨hp.of_requests_eq rfl, rfl⟩

/-! ### Runs -/

/-- The history of a run leads from what the request was bound to before to what it is bound to
after. -/
theorem alternates_journal (timeout : Int) (cs : List TimedCall) {w : World} (hw : w.Sound)
    (request : Int) :
    Alternates (w.tables.boundTo request) (bindingHistory request (journal timeout cs w))
      ((worldAfter timeout cs w).tables.boundTo request) := by
  induction cs generalizing w with
  | nil => exact .nil
  | cons c cs ih =>
    have heffect := c.make_effect timeout w
    have hmoment : (w.atMoment c.moment).Sound := ⟨hw.lawful, hw.within⟩
    have hone := heffect.alternates hmoment request
    have hrest := ih (heffect.sound hmoment)
    rw [journal, bindingHistory_cons]
    exact hone.append hrest

theorem bindingHistory_of_isPublished (timeout : Int) (cs : List TimedCall) {w : World}
    {request : Int} (hp : w.tables.IsPublished request) :
    bindingHistory request (journal timeout cs w) = [] := by
  induction cs generalizing w with
  | nil => rfl
  | cons c cs ih =>
    have hmoment : (w.atMoment c.moment).tables.IsPublished request := hp
    obtain ⟨hkept, hnone⟩ := (c.make_effect timeout w).isPublished hmoment
    rw [journal, bindingHistory_cons]
    change (bindingEvent? request c.call (c.make timeout w).outcome).toList ++ _ = []
    rw [hnone]
    exact ih hkept

/-- A publication that goes through publishes the requests bound to the shift. -/
theorem isPublished_of_publishShift {timeout shift request : Int} {m : Moment} {w : World}
    {a : Answer} (hw : w.Sound)
    (hok : ((⟨m, .publishShift shift⟩ : TimedCall).make timeout w).outcome = .ok a)
    (hbound : w.tables.isBound shift request = true) :
    ((⟨m, .publishShift shift⟩ : TimedCall).make timeout w).after.tables.IsPublished request := by
  have heffect := (⟨m, .publishShift shift⟩ : TimedCall).make_effect timeout w
  rw [hok] at heffect
  generalize ((⟨m, .publishShift shift⟩ : TimedCall).make timeout w).after = w' at heffect ⊢
  cases heffect with
  | viewed view => cases view
  | published shift? => exact isPublished_publish hw.lawful hbound

theorem length_bindingsOf {t : Tables} (h : t.Lawful) (request : Int) :
    (t.bindingsOf request).length = (t.boundTo request).toList.length := by
  have hle := length_bindingsOf_le_one h request
  unfold boundTo
  rcases hb : t.bindingsOf request with _ | ⟨b, _ | ⟨c, bs⟩⟩
  · rfl
  · rfl
  · rw [hb] at hle
    simp at hle

/-- The history of a request in a run that begins on a fresh desk.  It is bound and unbound in
turns; its bindings in the table are those that were not undone, one at most; after its shift has
been published nothing more happens; and between two bindings there is an unbinding. -/
theorem bindingHistory_of_run (timeout : Int) (cs : List TimedCall) (w : World) (request : Int)
    (h : IsFresh w) :
    let after := worldAfter timeout cs w
    let history := bindingHistory request (journal timeout cs w)
    Alternates none history (after.tables.boundTo request) ∧
    (after.tables.bindingsOf request).length + history.countP (!·.isBound)
      = history.countP (·.isBound) ∧
    (after.tables.bindingsOf request).length ≤ 1 ∧
    (∀ before m shift a rest, cs = before ++ ⟨m, .publishShift shift⟩ :: rest →
      let publication := (⟨m, .publishShift shift⟩ : TimedCall).make timeout
        (worldAfter timeout before w)
      publication.outcome = .ok a →
      (worldAfter timeout before w).tables.isBound shift request = true →
      bindingHistory request (journal timeout rest publication.after) = []) ∧
    (∀ before stretch rest, cs = before ++ stretch ++ rest →
      let part := bindingHistory request (journal timeout stretch (worldAfter timeout before w))
      (∀ shift, .unbound shift ∉ part) → part.length ≤ 1) := by
  have hnone : w.tables.boundTo request = none := by
    simp [boundTo, bindingsOf, h.noBindings]
  have hsound := sound_worldAfter timeout cs h.sound
  have halternates := alternates_journal timeout cs h.sound request
  rw [hnone] at halternates
  refine ⟨halternates, ?_, length_bindingsOf_le_one hsound.lawful request, ?_, ?_⟩
  · rw [length_bindingsOf hsound.lawful, halternates.count]
    exact Nat.zero_add _
  · intro before m shift a rest _ publication hok hbound
    have hbefore := sound_worldAfter timeout before h.sound
    exact bindingHistory_of_isPublished timeout rest
      (isPublished_of_publishShift hbefore hok hbound)
  · intro before stretch rest _ part hpart
    have hbefore := sound_worldAfter timeout before h.sound
    exact (alternates_journal timeout stretch hbefore request).length_le_one hpart

/-- A request is bound, unbound, bound elsewhere and published; what is tried after that fails. -/
def rebooking : List TimedCall :=
  [smallRequest, .assign 2 1, .assign 1 1, .unassign 2 1, .assign 1 1].map TimedCall.undisturbed

def afterwards : List TimedCall := [.unassign 1 1, .assign 2 1].map TimedCall.undisturbed

theorem bindingHistory_of_rebooking :
    IsFresh smallDesk ∧
    bindingHistory 1 (journal 0 (rebooking ++ .undisturbed (.publishShift 1) :: afterwards) smallDesk)
      = [.bound 2, .unbound 2, .bound 1] ∧
    bindingHistory 1 (journal 0 afterwards
      ((TimedCall.undisturbed (.publishShift 1)).make 0 (worldAfter 0 rebooking smallDesk)).after)
      = [] ∧
    (bindingHistory 1 (journal 0 (rebooking.take 3) smallDesk)).length ≤ 1 := by
  have h := bindingHistory_of_run 0 (rebooking ++ .undisturbed (.publishShift 1) :: afterwards)
    smallDesk 1 isFresh_smallDesk
  obtain ⟨-, -, -, hpublished, hstretch⟩ := h
  refine ⟨isFresh_smallDesk, by decide +kernel, ?_, ?_⟩
  · exact hpublished rebooking ⟨⟨0⟩, [], [], true⟩ 1 (.published 1 1) afterwards rfl
      (by decide +kernel) (by decide +kernel)
  · refine hstretch [] (rebooking.take 3) _ rfl ?_
    have hpart : bindingHistory 1 (journal 0 (rebooking.take 3) smallDesk) = [.bound 2] := by
      decide +kernel
    intro shift hmem
    rw [worldAfter_nil, hpart] at hmem
    simp at hmem

end Desk
end ShuttleDesk
