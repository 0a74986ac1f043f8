/-
  ShuttleDesk/Proofs/Desk/EditMerge.lean
  ======================================
  Editing a request and making it anew come to the same.  An edit gives some of the
  fields that a new request gives, and it keeps, writes or computes six columns, in ways
  that depend on which fields are there.  Whatever it does, the row is one that a new
  request would have: the request of the old input in which the fields of the edit are
  replaced.  An edit is accepted exactly if this new request would be.

  The invariant says that the columns of the row are those that a new request with some
  input computes.  It carries the stored buffer and the stored pickup, so that an edit
  that sees no reason to compute them anew is right to keep them.  The stored arrival is
  the arrival of the input as long as that is not the second 60 of a minute.

  With the invariant the laws of edits are laws of inputs: the last edit of a field
  counts, edits of different fields commute, and an edit that is repeated does nothing.
-/
import Mathlib.Data.List.Induction
import ShuttleDesk.Proofs.Desk.Timing
import ShuttleDesk.Proofs.Input.Edits

namespace ShuttleDesk

open Calendar (DateTime WallClock)

namespace Desk

open Statement

/-! ### What an input computes -/

/-- The text is not an arrival at the second 60 of a minute. -/
def NoLeapSecond (raw : String) : Prop :=
  ∀ t ∈ (readDateTime "expected_arrival_time" raw).toOption, t.isLeapSecond = false

theorem NoLeapSecond.isLeapSecond_eq {raw : String} {t : DateTime} (h : NoLeapSecond raw)
    (ht : readDateTime "expected_arrival_time" raw = .ok t) : t.isLeapSecond = false :=
  h t (by rw [ht]; rfl)

/-- A new request with the input is accepted, and it has these values. -/
structure Computes (i : RequestInput) (v : NewRequest) : Prop where
  valid : i.validate = .ok ()
  computed : ∃ date arrival, readDate "arrival_date" i.arrivalDate = .ok date ∧
    readDateTime "expected_arrival_time" i.expectedArrivalTime = .ok arrival ∧
    newRequest? i date arrival = some v
  storable : Storable (Requests.arguments v)

theorem Computes.unique {i : RequestInput} {v v' : NewRequest} (h : Computes i v)
    (h' : Computes i v') : v = v' := by
  obtain ⟨date, arrival, hdate, harrival, hv⟩ := h.computed
  obtain ⟨date', arrival', hdate', harrival', hv'⟩ := h'.computed
  cases hdate.symm.trans hdate'
  cases harrival.symm.trans harrival'
  exact Option.some.inj (hv.symm.trans hv')

/-- A field that is read if it is given, and otherwise has been read before. -/
theorem reads_getD_iff {ε α β : Type} {read : α → Except ε β} {a : α} {b c : β}
    (h : read a = .ok b) (given : Option α) :
    read (given.getD a) = .ok c ↔ ∃ d, given.mapM read = .ok d ∧ d.getD b = c := by
  cases given with
  | none =>
    rw [Option.getD_none, h, Except.ok.injEq]
    constructor
    · intro hc
      exact ⟨none, rfl, hc⟩
    · rintro ⟨d, hd, hc⟩
      cases hd
      exact hc
  | some a' =>
    rw [Option.getD_some, Option.mapM_some]
    constructor
    · intro hc
      exact ⟨some c, by rw [hc]; rfl, rfl⟩
    · rintro ⟨d, hd, hc⟩
      obtain ⟨c', hc', hd⟩ := except_bind_ok_iff.1 hd
      cases hd
      rw [hc', ← hc]
      rfl

namespace RequestChange

theorem ofEdit_ok_iff {p : RequestEdit} {c : RequestChange} :
    ofEdit p = .ok c ↔ ∃ date arrival,
      p.arrivalDate.mapM (readDate "arrival_date") = .ok date ∧
      p.expectedArrivalTime.mapM (readDateTime "expected_arrival_time") = .ok arrival ∧
      (⟨p.flightNo, date, p.terminal, p.checkedBags, p.carryOnBags, arrival⟩ : RequestChange)
        = c := by
  unfold ofEdit
  simp only [except_bind_ok_iff]
  constructor
  · rintro ⟨date, hdate, arrival, harrival, h⟩
    exact ⟨date, arrival, hdate, harrival, Except.ok.inj h⟩
  · rintro ⟨date, arrival, hdate, harrival, rfl⟩
    exact ⟨date, hdate, arrival, harrival, rfl⟩

/-- The pickup after a change is the one that is computed from scratch, also where the change
keeps the old one. -/
theorem pickupAfter_eq {c : RequestChange} {row : Request} {arrival pickup : DateTime}
    (hleap : arrival.isLeapSecond = false)
    (harrival : row.arrivalTime = some (.ofDateTime arrival))
    (hstored : row.calcPickupTime = some (.ofDateTime pickup))
    (hpickup : Pickup.time? arrival row.pickupBuffer = some pickup) :
    c.pickupAfter row
      = (Pickup.time? (c.arrival.getD arrival) (c.buffer row)).map fun p => some (.ofDateTime p) := by
  unfold pickupAfter
  by_cases hchanges : c.changesTiming row = true
  · have hread : c.arrivalAfter row = some (c.arrival.getD arrival) := by
      unfold arrivalAfter
      cases c.arrival with
      | none =>
        rw [harrival]
        exact WallClock.toDateTime?_ofDateTime hleap
      | some arrival => rfl
    rw [if_pos hchanges, hread]
  · rw [if_neg hchanges]
    simp only [changesTiming, Bool.or_eq_true, bne_iff_ne, ne_eq, not_or, not_not,
      Option.not_isSome_iff_eq_none] at hchanges
    obtain ⟨hsame, hnone⟩ := hchanges
    rw [hsame, hnone, Option.getD_none, hpickup, hstored]
    rfl

/-- A change of a row that a new request computes leaves one that a new request computes. -/
theorem details_after? {i : RequestInput} {date : Calendar.Date} {arrival : DateTime}
    {row : Request} (h : newRequest? i date arrival = some row.details)
    (hleap : arrival.isLeapSecond = false) (p : RequestEdit) (date' : Option Calendar.Date)
    (arrival' : Option DateTime) :
    ((⟨p.flightNo, date', p.terminal, p.checkedBags, p.carryOnBags, arrival'⟩ :
        RequestChange).after? row).map Request.details
      = newRequest? (i.withEdit p) (date'.getD date) (arrival'.getD arrival) := by
  obtain ⟨pickup, hpickup, hrow⟩ := Option.bind_eq_some_iff.1 h
  simp only [Option.pure_def, Option.some.injEq, Request.details, NewRequest.mk.injEq] at hrow
  obtain ⟨hflight, hdate, hterminal, hchecked, hcarryOn, harrival, hbuffer, hstored⟩ := hrow
  have htimed : row.IsTimed :=
    .of_time? hleap (hbuffer.symm.trans (congrArg _ hterminal)) harrival.symm hstored.symm
      (hbuffer ▸ hpickup)
  have hafter := pickupAfter_eq hleap harrival.symm hstored.symm (hbuffer ▸ hpickup)
    (c := ⟨p.flightNo, date', p.terminal, p.checkedBags, p.carryOnBags, arrival'⟩)
  rw [buffer_eq htimed.buffer, ← hterminal] at hafter
  have hstoredArrival : (arrival'.map WallClock.ofDateTime <|> row.arrivalTime)
      = some (.ofDateTime (arrival'.getD arrival)) := by
    rw [← harrival]
    cases arrival' <;> rfl
  simp only [after?, hafter, newRequest?, RequestInput.withEdit, buffer_eq htimed.buffer, hflight,
    hdate, hterminal, hchecked, hcarryOn, hstoredArrival]
  cases Pickup.time? (arrival'.getD arrival) (Pickup.bufferFor (p.terminal.getD row.terminal)) with
  | none => rfl
  | some pickup' => rfl

end RequestChange

theorem Computes.bagsAllowed {i : RequestInput} {v : NewRequest} (h : Computes i v) :
    Requests.bagsAllowed v.checkedBags v.carryOnBags = true := by
  obtain ⟨date, arrival, -, -, hv⟩ := h.computed
  obtain ⟨pickup, -, hv⟩ := Option.bind_eq_some_iff.1 hv
  cases hv
  obtain ⟨hcarryOn, hchecked, -, -⟩ := FieldRule.check_broken_ok_iff.1 h.valid
  rw [Requests.bagsAllowed, Bool.and_eq_true]
  exact ⟨hchecked, hcarryOn⟩

theorem Computes.isReadable {i : RequestInput} {r : Request} (h : Computes i r.details) :
    r.isReadable = true := by
  obtain ⟨date, arrival, -, -, hv⟩ := h.computed
  rw [Request.isReadable, Bool.and_eq_true]
  exact readable_of_newRequest? hv

/-- An edit is accepted, and leaves these columns, exactly if the input with its fields computes
them. -/
theorem computes_withEdit_iff {i : RequestInput} {row : Request} (h : Computes i row.details)
    (hleap : NoLeapSecond i.expectedArrivalTime) {p : RequestEdit} {v : NewRequest} :
    Computes (i.withEdit p) v ↔ p.validate = .ok () ∧
      ∃ change after, RequestChange.ofEdit p = .ok change ∧ change.after? row = some after ∧
        Storable (Requests.detailArguments after) ∧ after.details = v := by
  obtain ⟨date, arrival, hdate, harrival, hmade⟩ := h.computed
  have hdetails := RequestChange.details_after? hmade (hleap.isLeapSecond_eq harrival) p
  constructor
  · intro k
    obtain ⟨newDate, newArrival, hnewDate, hnewArrival, hv⟩ := k.computed
    obtain ⟨date', hdate', rfl⟩ := (reads_getD_iff hdate p.arrivalDate).1 hnewDate
    obtain ⟨arrival', harrival', rfl⟩ :=
      (reads_getD_iff harrival p.expectedArrivalTime).1 hnewArrival
    rw [← hdetails] at hv
    obtain ⟨after, hafter, rfl⟩ := Option.map_eq_some_iff.1 hv
    exact ⟨(RequestInput.validate_withEdit_iff h.valid p).1 k.valid, _, after,
      RequestChange.ofEdit_ok_iff.2 ⟨date', arrival', hdate', harrival', rfl⟩, hafter, k.storable,
      rfl⟩
  · rintro ⟨hvalid, change, after, hchange, hafter, hstorable, rfl⟩
    obtain ⟨date', arrival', hdate', harrival', rfl⟩ := RequestChange.ofEdit_ok_iff.1 hchange
    constructor
    · exact (RequestInput.validate_withEdit_iff h.valid p).2 hvalid
    · refine ⟨date'.getD date, arrival'.getD arrival, ?_, ?_, ?_⟩
      · exact (reads_getD_iff hdate p.arrivalDate).2 ⟨date', hdate', rfl⟩
      · exact (reads_getD_iff harrival p.expectedArrivalTime).2 ⟨arrival', harrival', rfl⟩
      · rw [← hdetails, hafter, Option.map_some]
    · exact hstorable

/-! ### The two operations -/

variable {rider timeout : Int} {w w' : World} {r row : Request} {i : RequestInput}
  {p : RequestEdit}

theorem createRequest_ok_iff_computes :
    createRequest rider i w = (.ok r, w') ↔
      w.isOpen = true ∧ (w.tables.user? rider).isSome = true ∧ w.tables.requestsOf rider = [] ∧
      ∃ v, Computes i v ∧ Requests.ofNew (w.issued.requests + 1) rider v w.now = r ∧
        w.issueRequest.withTables (w.tables.addRequest r) = w' := by
  rw [createRequest_ok_iff]
  constructor
  · rintro ⟨halone, hvalid, date, arrival, v, hdate, harrival, hv, h⟩
    obtain ⟨hopen, hstorable, -, hknown, hrow, -, hworld⟩ := Requests.insert_ok_iff.1 h
    exact ⟨hopen, hknown, halone, v, ⟨hvalid, ⟨date, arrival, hdate, harrival, hv⟩, hstorable⟩,
      hrow, hworld⟩
  · rintro ⟨hopen, hknown, halone, v, hcomputes, rfl, rfl⟩
    obtain ⟨date, arrival, hdate, harrival, hv⟩ := hcomputes.computed
    refine ⟨halone, hcomputes.valid, date, arrival, v, hdate, harrival, hv, ?_⟩
    exact Requests.insert_ok_iff.2 ⟨hopen, hcomputes.storable, hcomputes.bagsAllowed, hknown, rfl,
      Computes.isReadable (r := Requests.ofNew _ rider v w.now) hcomputes, rfl⟩

theorem editRequest_ok_iff_computes (hrow : w.tables.request? row.id = some row)
    (hpending : row.status = .pending) (h : Computes i row.details)
    (hleap : NoLeapSecond i.expectedArrivalTime) :
    editRequest timeout row.userId row.id p w = (.ok r, w') ↔
      w.isOpen = true ∧ timeout ≤ greatestLockTimeout ∧ row.id ∉ w.heldRequests ∧
      ∃ v, Computes (i.withEdit p) v ∧ { row.withValues v with updatedAt := w.now } = r ∧
        w.withTables (w.tables.editRequests w.now (·.id == row.id) (Request.withValues v)) = w' := by
  have howned : (w.tables.request? row.id).filter (·.userId == row.userId) = some row := by
    simp [hrow]
  have hsaved : ∀ v, (w.tables.editRequests w.now (·.id == row.id)
      (Request.withValues v)).request? row.id
        = some { row.withValues v with updatedAt := w.now } := by
    intro v
    have hid : ∀ r, (Request.withValues v r).id = r.id := fun _ => rfl
    simp [Tables.request?_editRequests hid, hrow]
  rw [editRequest_ok_iff]
  constructor
  · rintro ⟨htimeout, row', change, after, hrow', ⟨hfree, -⟩, -, hvalid, hchange, hafter, hsave⟩
    cases howned.symm.trans hrow'
    obtain ⟨hopen, hstorable, -, -, hr, -, hworld⟩ := Requests.saveDetails_ok_iff.1 hsave
    have hid := RequestChange.after?_id hafter
    rw [Tables.editDetails_eq, hid] at hr hworld
    rw [hsaved, Option.some.injEq] at hr
    have hcomputes := (computes_withEdit_iff h hleap).2
      ⟨hvalid, change, after, hchange, hafter, hstorable, rfl⟩
    exact ⟨hopen, htimeout, hfree, after.details, hcomputes, hr, hworld⟩
  · rintro ⟨hopen, htimeout, hfree, v, hcomputes, rfl, rfl⟩
    obtain ⟨hvalid, change, after, hchange, hafter, hstorable, rfl⟩ :=
      (computes_withEdit_iff h hleap).1 hcomputes
    have hid := RequestChange.after?_id hafter
    refine ⟨htimeout, row, change, after, howned, ⟨hfree, h.isReadable⟩, hpending, hvalid, hchange,
      hafter, ?_⟩
    have hothers : Requests.AreFree w (·.id == after.id) := by
      intro other _ hother
      rw [beq_iff_eq.1 hother, hid]
      exact hfree
    refine Requests.saveDetails_ok_iff.2
      ⟨hopen, hstorable, hcomputes.bagsAllowed, hothers, ?_, ?_, ?_⟩
    · rw [Tables.editDetails_eq, hid]
      exact hsaved after.details
    · exact Computes.isReadable (r := row.withValues after.details) hcomputes
    · rw [Tables.editDetails_eq, hid]

/-! ### Rows that stay what an input computes -/

/-- The row is still the request that it was at first, it is pending, and it has the values that
the input computes. -/
structure IsMadeFrom (first : Request) (i : RequestInput) (row : Request) : Prop where
  id : row.id = first.id
  userId : row.userId = first.userId
  createdAt : row.createdAt = first.createdAt
  pending : row.status = .pending
  computes : Computes i row.details

theorem eq_of_details {a b : Request} (hid : a.id = b.id) (huser : a.userId = b.userId)
    (hstatus : a.status = b.status) (hcreated : a.createdAt = b.createdAt)
    (hupdated : a.updatedAt = b.updatedAt) (hdetails : a.details = b.details) : a = b := by
  cases a
  cases b
  simp only [Request.details, NewRequest.mk.injEq] at *
  simp only [Request.mk.injEq]
  simp_all

namespace IsMadeFrom

variable {first a b : Request} {j : RequestInput} {v : NewRequest} {now : WallClock}

/-- Only the stamp of the row is not decided by the input. -/
theorem eq_stamped (h : IsMadeFrom first i a) (k : IsMadeFrom first i b) :
    b = { a with updatedAt := b.updatedAt } :=
  eq_of_details (k.id.trans h.id.symm) (k.userId.trans h.userId.symm)
    (k.pending.trans h.pending.symm) (k.createdAt.trans h.createdAt.symm) rfl
    (k.computes.unique h.computes)

theorem withValues (h : IsMadeFrom first i a) (hv : Computes j v) :
    IsMadeFrom first j { a.withValues v with updatedAt := now } :=
  ⟨h.id, h.userId, h.createdAt, h.pending, hv⟩

end IsMadeFrom

/-- A new request is what its input computes. -/
theorem isMadeFrom_of_createRequest (hw : w.Sound) (h : createRequest rider i w = (.ok r, w')) :
    w'.tables.request? r.id = some r ∧ IsMadeFrom r i r ∧ r.userId = rider := by
  have hcall : (Call.createRequest rider i).perform 0 w = (.ok (.request r), w') :=
    Procedure.map_ok_iff.2 ⟨r, h, rfl⟩
  have heffect := effect_of_ok hcall
  obtain ⟨-, -, -, v, hv, hr, rfl⟩ := createRequest_ok_iff_computes.1 h
  refine ⟨(heffect.sound hw).lawful.request?_of_mem ?_, ?_, by rw [← hr]; rfl⟩
  · exact List.mem_append_right _ (List.mem_singleton.2 rfl)
  · refine ⟨rfl, rfl, rfl, ?_, ?_⟩
    · rw [← hr]
      rfl
    · rw [← hr]
      exact hv

/-! ### Edits one after the other -/

/-- A rider's edits of a request, each at its moment. -/
def editing (rider request : Int) (edits : List (Moment × RequestEdit)) : List TimedCall :=
  edits.map fun e => ⟨e.1, .editRequest rider request e.2⟩

/-- The edit of an entry that was answered. -/
def takenEdit? (e : Entry) : Option RequestEdit :=
  match e.call, e.outcome with
  | .editRequest _ _ p, .ok _ => some p
  | _, _ => none

/-- Those of a rider's edits that were taken. -/
def takenEdits (timeout rider request : Int) (w : World) (edits : List (Moment × RequestEdit)) :
    List RequestEdit :=
  (journal timeout (editing rider request edits) w).filterMap takenEdit?

def tablesAfterEdits (timeout rider request : Int) (w : World)
    (edits : List (Moment × RequestEdit)) : Tables :=
  (worldAfter timeout (editing rider request edits) w).tables

/-- The request can be looked at for an edit: nobody holds it, and the desk can wait so long. -/
structure CanEdit (timeout : Int) (request : Int) (m : Moment) : Prop where
  isOpen : m.isOpen = true
  timeout : timeout ≤ greatestLockTimeout
  free : request ∉ m.heldRequests

/-- What one edit does: it is taken if the input with its fields computes something, and then
these values are written; otherwise it does nothing. -/
theorem make_edit {first : Request} (hrow : w.tables.request? first.id = some row)
    (h : IsMadeFrom first i row) (hleap : NoLeapSecond i.expectedArrivalTime) (timeout : Int)
    (m : Moment) (p : RequestEdit) :
    let e := (⟨m, .editRequest first.userId first.id p⟩ : TimedCall).make timeout w
    (CanEdit timeout first.id m ∧ ∃ v, Computes (i.withEdit p) v ∧ takenEdit? e = some p ∧
      e.after.tables
        = w.tables.editRequests m.now (·.id == first.id) (Request.withValues v)) ∨
    (¬ (CanEdit timeout first.id m ∧ ∃ v, Computes (i.withEdit p) v) ∧ takenEdit? e = none ∧
      e.after.tables = w.tables) := by
  intro e
  have hstored : (w.atMoment m).tables.request? row.id = some row := by
    rw [h.id]
    exact hrow
  have hiff : ∀ r w', editRequest timeout row.userId row.id p (w.atMoment m) = (.ok r, w') ↔ _ :=
    fun _ _ => editRequest_ok_iff_computes hstored h.pending h.computes hleap
  rw [h.id, h.userId] at hiff
  rcases hrun : editRequest timeout first.userId first.id p (w.atMoment m) with ⟨s | r, w'⟩
  · have hperform : (Call.editRequest first.userId first.id p).perform timeout (w.atMoment m)
        = (.error s, w') := Procedure.map_error_iff.2 hrun
    have he : e = ⟨.editRequest first.userId first.id p, .error s, w'⟩ := by
      simp only [e, TimedCall.make, hperform]
    right
    refine ⟨?_, by rw [he]; rfl, ?_⟩
    · rintro ⟨⟨hopen, htimeout, hfree⟩, v, hv⟩
      have hok := (hiff _ _).2 ⟨hopen, htimeout, hfree, v, hv, rfl, rfl⟩
      rw [hrun] at hok
      cases hok
    · rw [he]
      exact (atomic_editRequest _ _ _ _ _ _ _ hrun).tables
  · have hperform : (Call.editRequest first.userId first.id p).perform timeout (w.atMoment m)
        = (.ok (.request r), w') := Procedure.map_ok_iff.2 ⟨r, hrun, rfl⟩
    have he : e = ⟨.editRequest first.userId first.id p, .ok (.request r), w'⟩ := by
      simp only [e, TimedCall.make, hperform]
    obtain ⟨hopen, htimeout, hfree, v, hv, -, rfl⟩ := (hiff r w').1 hrun
    left
    refine ⟨⟨hopen, htimeout, hfree⟩, v, hv, by rw [he]; rfl, ?_⟩
    rw [he]
    rfl

/-- The tables hold the request that it was at first, with the values that the input computes. -/
structure Stands (first : Request) (i : RequestInput) (t : Tables) : Prop where
  row : ∃ row, t.request? first.id = some row ∧ IsMadeFrom first i row
  noLeap : NoLeapSecond i.expectedArrivalTime

section Edits

variable {first : Request} {edits : List (Moment × RequestEdit)} {m : Moment}

theorem Stands.editRequests {t : Tables} {v : NewRequest} {now : WallClock} (h : Stands first i t)
    (hv : Computes (i.withEdit p) v)
    (hp : ∀ raw ∈ p.expectedArrivalTime, NoLeapSecond raw) :
    Stands first (i.withEdit p)
      (t.editRequests now (·.id == first.id) (Request.withValues v)) where
  row := by
    obtain ⟨row, hrow, hmade⟩ := h.row
    have hid : ∀ r, (Request.withValues v r).id = r.id := fun _ => rfl
    refine ⟨{ row.withValues v with updatedAt := now }, ?_, hmade.withValues hv⟩
    simp [Tables.request?_editRequests hid, hrow, hmade.id]
  noLeap := by
    unfold RequestInput.withEdit
    cases hraw : p.expectedArrivalTime with
    | none => exact h.noLeap
    | some raw => exact hp raw hraw

/-- One edit more: it is taken, or it does nothing. -/
theorem one_more (h : Stands first i (tablesAfterEdits timeout first.userId first.id w edits))
    (m : Moment) (p : RequestEdit) :
    (CanEdit timeout first.id m ∧ ∃ v, Computes (i.withEdit p) v ∧
      takenEdits timeout first.userId first.id w (edits ++ [(m, p)])
        = takenEdits timeout first.userId first.id w edits ++ [p] ∧
      tablesAfterEdits timeout first.userId first.id w (edits ++ [(m, p)])
        = (tablesAfterEdits timeout first.userId first.id w edits).editRequests m.now
            (·.id == first.id) (Request.withValues v)) ∨
    (¬ (CanEdit timeout first.id m ∧ ∃ v, Computes (i.withEdit p) v) ∧
      takenEdits timeout first.userId first.id w (edits ++ [(m, p)])
        = takenEdits timeout first.userId first.id w edits ∧
      tablesAfterEdits timeout first.userId first.id w (edits ++ [(m, p)])
        = tablesAfterEdits timeout first.userId first.id w edits) := by
  obtain ⟨row, hrow, hmade⟩ := h.row
  have hone := make_edit hrow hmade h.noLeap timeout m p
  have htables : tablesAfterEdits timeout first.userId first.id w (edits ++ [(m, p)])
      = ((⟨m, .editRequest first.userId first.id p⟩ : TimedCall).make timeout
          (worldAfter timeout (editing first.userId first.id edits) w)).after.tables := by
    rw [tablesAfterEdits, editing, List.map_append, worldAfter_append]
    rfl
  have htaken : takenEdits timeout first.userId first.id w (edits ++ [(m, p)])
      = takenEdits timeout first.userId first.id w edits
        ++ (takenEdit? ((⟨m, .editRequest first.userId first.id p⟩ : TimedCall).make timeout
          (worldAfter timeout (editing first.userId first.id edits) w))).toList := by
    rw [takenEdits, editing, List.map_append, journal_append, List.filterMap_append]
    congr 1
  rw [htables, htaken]
  rcases hone with ⟨hcan, v, hv, hevent, hafter⟩ | ⟨hcannot, hevent, hafter⟩
  · left
    rw [hevent]
    exact ⟨hcan, v, hv, rfl, hafter⟩
  · right
    rw [hevent]
    exact ⟨hcannot, List.append_nil _, hafter⟩

/-- After any edits the request is what the input computes in which their fields are replaced. -/
theorem stands_after_edits (h : Stands first i w.tables)
    (hedits : ∀ e ∈ edits, ∀ raw ∈ e.2.expectedArrivalTime, NoLeapSecond raw) :
    Stands first (i.replaced (takenEdits timeout first.userId first.id w edits))
      (tablesAfterEdits timeout first.userId first.id w edits) := by
  induction edits using List.reverseRecOn with
  | nil => exact h
  | append_singleton edits e ih =>
    obtain ⟨m, p⟩ := e
    have hbefore := ih fun e he => hedits e (List.mem_append_left _ he)
    have hp := hedits (m, p) (List.mem_append_right _ (List.mem_singleton.2 rfl))
    rcases one_more hbefore m p with ⟨-, v, hv, htaken, htables⟩ | ⟨-, htaken, htables⟩
    · rw [htaken, htables, RequestInput.replaced_append_one]
      exact hbefore.editRequests hv hp
    · rw [htaken, htables]
      exact hbefore

/-- An edit is taken exactly if it can be looked at and the input with its fields computes
something. -/
theorem taken_iff (h : Stands first i (tablesAfterEdits timeout first.userId first.id w edits)) :
    takenEdits timeout first.userId first.id w (edits ++ [(m, p)])
        = takenEdits timeout first.userId first.id w edits ++ [p] ↔
      CanEdit timeout first.id m ∧ ∃ v, Computes (i.withEdit p) v := by
  rcases one_more h m p with ⟨hcan, v, hv, htaken, -⟩ | ⟨hnot, htaken, -⟩
  · exact ⟨fun _ => ⟨hcan, v, hv⟩, fun _ => htaken⟩
  · refine ⟨fun hone => ?_, fun hcan => absurd hcan hnot⟩
    rw [hone] at htaken
    simp at htaken

theorem tables_of_taken
    (h : Stands first i (tablesAfterEdits timeout first.userId first.id w edits))
    (htaken : takenEdits timeout first.userId first.id w (edits ++ [(m, p)])
      = takenEdits timeout first.userId first.id w edits ++ [p]) :
    ∃ v, Computes (i.withEdit p) v ∧
      tablesAfterEdits timeout first.userId first.id w (edits ++ [(m, p)])
        = (tablesAfterEdits timeout first.userId first.id w edits).editRequests m.now
            (·.id == first.id) (Request.withValues v) := by
  rcases one_more h m p with ⟨-, v, hv, -, htables⟩ | ⟨hnot, -, -⟩
  · exact ⟨v, hv, htables⟩
  · exact absurd ((taken_iff h).1 htaken) hnot

theorem Stands.of_taken
    (h : Stands first i (tablesAfterEdits timeout first.userId first.id w edits))
    (hp : ∀ raw ∈ p.expectedArrivalTime, NoLeapSecond raw)
    (htaken : takenEdits timeout first.userId first.id w (edits ++ [(m, p)])
      = takenEdits timeout first.userId first.id w edits ++ [p]) :
    Stands first (i.withEdit p)
      (tablesAfterEdits timeout first.userId first.id w (edits ++ [(m, p)])) := by
  obtain ⟨v, hv, htables⟩ := tables_of_taken h htaken
  rw [htables]
  exact h.editRequests hv hp

/-- Edits that leave the same input leave the same row but for its stamp. -/
theorem Stands.eq_stamped {t u : Tables} {j : RequestInput} (h : Stands first i t)
    (k : Stands first j u) (hij : i = j) :
    ∃ a b, t.request? first.id = some a ∧ u.request? first.id = some b ∧
      b = { a with updatedAt := b.updatedAt } := by
  subst hij
  obtain ⟨a, ha, hmadeA⟩ := h.row
  obtain ⟨b, hb, hmadeB⟩ := k.row
  exact ⟨a, b, ha, hb, hmadeA.eq_stamped hmadeB⟩

/-- To write the values that are there is to stamp the row. -/
theorem editRequests_withValues_again {t : Tables} {v : NewRequest} {earlier now : WallClock}
    {request : Int} :
    (t.editRequests earlier (·.id == request) (Request.withValues v)).editRequests now
        (·.id == request) (Request.withValues v)
      = (t.editRequests earlier (·.id == request) (Request.withValues v)).editRequests now
        (·.id == request) id := by
  simp only [Tables.editRequests, updateWhere, List.map_map]
  congr 1
  apply List.map_congr_left
  intro r _
  by_cases hr : r.id = request
  · simp [hr, Request.withValues]
  · simp [hr]

/-- The request that stands is one that its input makes at once, wherever the rider is known and
has no request. -/
theorem Stands.exists_created {t : Tables} (h : Stands first i t) :
    ∃ row, t.request? first.id = some row ∧ row.status = .pending ∧
      ∀ v : World, v.isOpen = true → (v.tables.user? first.userId).isSome = true →
        v.tables.requestsOf first.userId = [] →
        ∃ r' v', createRequest first.userId i v = (.ok r', v') ∧
          row = { r' with id := row.id, createdAt := row.createdAt, updatedAt := row.updatedAt } := by
  obtain ⟨row, hrow, hmade⟩ := h.row
  refine ⟨row, hrow, hmade.pending, ?_⟩
  intro v hopen hknown halone
  refine ⟨_, _, createRequest_ok_iff_computes.2
    ⟨hopen, hknown, halone, _, hmade.computes, rfl, rfl⟩, ?_⟩
  exact eq_of_details rfl hmade.userId hmade.pending rfl rfl rfl

/-- Where two edits were taken one after the other, both are in the input that stands. -/
theorem Stands.of_both_taken {q : RequestEdit} {m m' : Moment} (h : Stands first i w.tables)
    (hedits : ∀ e ∈ edits, ∀ raw ∈ e.2.expectedArrivalTime, NoLeapSecond raw)
    (hp : ∀ raw ∈ p.expectedArrivalTime, NoLeapSecond raw)
    (hq : ∀ raw ∈ q.expectedArrivalTime, NoLeapSecond raw)
    (hboth : takenEdits timeout first.userId first.id w (edits ++ [(m, p), (m', q)])
      = takenEdits timeout first.userId first.id w edits ++ [p, q]) :
    Stands first
      (((i.replaced (takenEdits timeout first.userId first.id w edits)).withEdit p).withEdit q)
      (tablesAfterEdits timeout first.userId first.id w (edits ++ [(m, p), (m', q)])) := by
  have hall : ∀ e ∈ edits ++ [(m, p), (m', q)],
      ∀ raw ∈ e.2.expectedArrivalTime, NoLeapSecond raw := by
    simp only [List.forall_mem_append, List.forall_mem_cons]
    exact ⟨hedits, hp, hq, by simp⟩
  have hafter : Stands first
      (i.replaced (takenEdits timeout first.userId first.id w (edits ++ [(m, p), (m', q)]))) _ :=
    stands_after_edits h hall
  rw [hboth, List.append_cons, RequestInput.replaced_append_one,
    RequestInput.replaced_append_one] at hafter
  exact hafter

/-- An edit that gives other fields than one that was taken after it is taken after that one too,
and then the same values stand. -/
theorem Stands.swap {q : RequestEdit} {u : Tables} (hpq : p.Disjoint q)
    (h : Stands first i (tablesAfterEdits timeout first.userId first.id w edits))
    (hboth : Stands first ((i.withEdit p).withEdit q) u)
    (hp : ∀ raw ∈ p.expectedArrivalTime, NoLeapSecond raw)
    (hq : ∀ raw ∈ q.expectedArrivalTime, NoLeapSecond raw) {m' : Moment}
    (htaken : takenEdits timeout first.userId first.id w (edits ++ [(m, q)])
      = takenEdits timeout first.userId first.id w edits ++ [q])
    (hcan : CanEdit timeout first.id m') :
    takenEdits timeout first.userId first.id w (edits ++ [(m, q), (m', p)])
        = takenEdits timeout first.userId first.id w edits ++ [q, p] ∧
      ∃ a b, u.request? first.id = some a ∧
        (tablesAfterEdits timeout first.userId first.id w
          (edits ++ [(m, q), (m', p)])).request? first.id = some b ∧
        b = { a with updatedAt := b.updatedAt } := by
  have hcomm := RequestInput.withEdit_withEdit_comm hpq i
  have hone := h.of_taken hq htaken
  obtain ⟨row, -, hmade⟩ := hboth.row
  have hnext := (taken_iff hone (m := m') (p := p)).2
    ⟨hcan, row.details, by rw [← hcomm]; exact hmade.computes⟩
  have htwo := hone.of_taken hp hnext
  rw [List.append_cons edits (m, q), List.append_cons (takenEdits _ _ _ _ _), ← htaken]
  exact ⟨hnext, hboth.eq_stamped htwo hcomm⟩

/-- An edit that was taken is taken again, and what it writes then is there already. -/
theorem Stands.again
    (h : Stands first i (tablesAfterEdits timeout first.userId first.id w edits))
    (hp : ∀ raw ∈ p.expectedArrivalTime, NoLeapSecond raw) {m' : Moment}
    (htaken : takenEdits timeout first.userId first.id w (edits ++ [(m, p)])
      = takenEdits timeout first.userId first.id w edits ++ [p])
    (hcan : CanEdit timeout first.id m') :
    takenEdits timeout first.userId first.id w (edits ++ [(m, p), (m', p)])
        = takenEdits timeout first.userId first.id w edits ++ [p, p] ∧
      tablesAfterEdits timeout first.userId first.id w (edits ++ [(m, p), (m', p)])
        = (tablesAfterEdits timeout first.userId first.id w (edits ++ [(m, p)])).editRequests
            m'.now (·.id == first.id) id := by
  have hself := RequestInput.withEdit_withEdit_self i p
  have hone := h.of_taken hp htaken
  obtain ⟨v, hv, htables⟩ := tables_of_taken h htaken
  have hnext := (taken_iff hone (m := m') (p := p)).2 ⟨hcan, v, by rw [hself]; exact hv⟩
  obtain ⟨v', hv', htables'⟩ := tables_of_taken hone hnext
  rw [hself] at hv'
  rw [List.append_cons edits (m, p), List.append_cons (takenEdits _ _ _ _ _), ← htaken]
  refine ⟨hnext, ?_⟩
  rw [htables', htables, hv'.unique hv]
  exact editRequests_withValues_again

end Edits

/-- Edits agree with creation.  After a rider has made a request and edited it, any edits at any
moments, the row is the one that a single request would have, made of the same input with each
field replaced by the last edit that gives it and was taken.  An edit that can be looked at is
taken exactly if the request could have been made like that from the beginning.  So edits of
different fields commute, and an edit that is repeated does nothing but stamp the row. -/
theorem edits_agree_with_creation (timeout rider : Int) (input : RequestInput) (w w₀ : World)
    (r : Request) (edits : List (Moment × RequestEdit)) (hw : w.Sound)
    (hmade : createRequest rider input w = (.ok r, w₀))
    (hinput : NoLeapSecond input.expectedArrivalTime)
    (hedits : ∀ e ∈ edits, ∀ raw ∈ e.2.expectedArrivalTime, NoLeapSecond raw) :
    let after := tablesAfterEdits timeout rider r.id w₀
    let taken := takenEdits timeout rider r.id w₀
    let merged := input.replaced (taken edits)
    (∃ row, (after edits).request? r.id = some row ∧ row.status = .pending ∧
      ∀ v : World, v.isOpen = true → (v.tables.user? rider).isSome = true →
        v.tables.requestsOf rider = [] →
        ∃ r' v', createRequest rider merged v = (.ok r', v') ∧
          row = { r' with id := row.id, createdAt := row.createdAt, updatedAt := row.updatedAt }) ∧
    (∀ m p, (∀ raw ∈ p.expectedArrivalTime, NoLeapSecond raw) → CanEdit timeout r.id m →
      (taken (edits ++ [(m, p)]) = taken edits ++ [p] ↔
        ∃ r' w', createRequest rider (merged.withEdit p) w = (.ok r', w'))) ∧
    (∀ m₁ m₂ m₃ m₄ p q, p.Disjoint q → (∀ raw ∈ p.expectedArrivalTime, NoLeapSecond raw) →
      (∀ raw ∈ q.expectedArrivalTime, NoLeapSecond raw) →
      taken (edits ++ [(m₁, p), (m₂, q)]) = taken edits ++ [p, q] →
      taken (edits ++ [(m₃, q)]) = taken edits ++ [q] → CanEdit timeout r.id m₄ →
      taken (edits ++ [(m₃, q), (m₄, p)]) = taken edits ++ [q, p] ∧
      ∃ a b, (after (edits ++ [(m₁, p), (m₂, q)])).request? r.id = some a ∧
        (after (edits ++ [(m₃, q), (m₄, p)])).request? r.id = some b ∧
        b = { a with updatedAt := b.updatedAt }) ∧
    (∀ m m' p, (∀ raw ∈ p.expectedArrivalTime, NoLeapSecond raw) →
      taken (edits ++ [(m, p)]) = taken edits ++ [p] → CanEdit timeout r.id m' →
      taken (edits ++ [(m, p), (m', p)]) = taken edits ++ [p, p] ∧
      after (edits ++ [(m, p), (m', p)])
        = (after (edits ++ [(m, p)])).editRequests m'.now (·.id == r.id) id) := by
  intro after taken merged
  obtain ⟨hopen, hknown, halone, -⟩ := createRequest_ok_iff_computes.1 hmade
  obtain ⟨hrow, hfirst, rfl⟩ := isMadeFrom_of_createRequest hw hmade
  have hbegin : Stands r input w₀.tables := ⟨⟨r, hrow, hfirst⟩, hinput⟩
  have hstands : Stands r merged (after edits) := stands_after_edits hbegin hedits
  refine ⟨hstands.exists_created, ?_, ?_, ?_⟩
  · intro m p hp hcan
    rw [taken_iff hstands]
    constructor
    · rintro ⟨-, v, hv⟩
      exact ⟨_, _, createRequest_ok_iff_computes.2 ⟨hopen, hknown, halone, v, hv, rfl, rfl⟩⟩
    · rintro ⟨r', w', h⟩
      obtain ⟨-, -, -, v, hv, -⟩ := createRequest_ok_iff_computes.1 h
      exact ⟨hcan, v, hv⟩
  · intro m₁ m₂ m₃ m₄ p q hpq hp hq hboth hqFirst hcan
    exact hstands.swap hpq (hbegin.of_both_taken hedits hp hq hboth) hp hq hqFirst hcan
  · intro m m' p hp hfirst hcan
    exact hstands.again hp hfirst hcan

/-! ### A detour -/

def smallInput : RequestInput := ⟨"CA1", "2026-03-01", "T5", 1, 2, "2026-03-01 10:00:00"⟩

def toOtherTerminal : RequestEdit := ⟨none, none, some "T2", none, none, none⟩

def backAndLater : RequestEdit := ⟨none, none, some "T5", none, none, some "2026-03-01 11:00:00"⟩

def moreBags : RequestEdit := ⟨none, none, none, some 2, none, none⟩

/-- The request goes to another terminal and back, and an edit in between is refused. -/
def detour : List (Moment × RequestEdit) :=
  [toOtherTerminal, ⟨none, none, none, some (-1), none, none⟩, backAndLater].map fun p =>
    (⟨⟨0⟩, [], [], true⟩, p)

theorem edits_agree_after_detour :
    ∃ r w₀, smallDesk.Sound ∧ createRequest 1 smallInput smallDesk = (.ok r, w₀) ∧
      NoLeapSecond smallInput.expectedArrivalTime ∧
      (∀ e ∈ detour, ∀ raw ∈ e.2.expectedArrivalTime, NoLeapSecond raw) ∧
      takenEdits 0 1 r.id w₀ detour = [toOtherTerminal, backAndLater] ∧
      (∃ row, (tablesAfterEdits 0 1 r.id w₀ detour).request? r.id = some row ∧
        ∃ r' v', createRequest 1 (smallInput.replaced [toOtherTerminal, backAndLater]) smallDesk
            = (.ok r', v') ∧
          row = { r' with id := row.id, createdAt := row.createdAt, updatedAt := row.updatedAt }) ∧
      ∃ r' v', createRequest 1
        ((smallInput.replaced [toOtherTerminal, backAndLater]).withEdit moreBags) smallDesk
          = (.ok r', v') := by
  obtain ⟨r, hr, hid⟩ : ∃ r, (createRequest 1 smallInput smallDesk).1 = .ok r ∧ r.id = 1 := by
    have hruns : (createRequest 1 smallInput smallDesk).1.toOption.map (·.id) = some 1 := by
      decide +kernel
    cases h : (createRequest 1 smallInput smallDesk).1 with
    | error s =>
      rw [h] at hruns
      cases hruns
    | ok r =>
      rw [h] at hruns
      exact ⟨r, rfl, Option.some.inj hruns⟩
  have hmade : createRequest 1 smallInput smallDesk
      = (.ok r, (createRequest 1 smallInput smallDesk).2) := Prod.ext hr rfl
  have hinput : NoLeapSecond smallInput.expectedArrivalTime := by
    unfold NoLeapSecond
    decide +kernel
  have hedits : ∀ e ∈ detour, ∀ raw ∈ e.2.expectedArrivalTime, NoLeapSecond raw := by
    unfold NoLeapSecond
    decide +kernel
  have htaken : takenEdits 0 1 r.id (createRequest 1 smallInput smallDesk).2 detour
      = [toOtherTerminal, backAndLater] := by
    rw [hid]
    decide +kernel
  obtain ⟨⟨row, hrow, -, hsingle⟩, haccepted, -, -⟩ := edits_agree_with_creation 0 1 smallInput
    smallDesk _ r detour isFresh_smallDesk.sound hmade hinput hedits
  rw [htaken] at hsingle haccepted
  refine ⟨r, _, isFresh_smallDesk.sound, hmade, hinput, hedits, htaken, ⟨row, hrow, ?_⟩, ?_⟩
  · exact hsingle smallDesk (by decide) (by decide) (by decide)
  · refine (haccepted ⟨⟨0⟩, [], [], true⟩ moreBags (by simp [moreBags]) ⟨rfl, ?_, ?_⟩).1 ?_
    · decide
    · simp
    · rw [hid]
      decide +kernel

end Desk
end ShuttleDesk
