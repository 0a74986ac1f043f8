/-
  ShuttleDesk/Proofs/Desk/SoleRequest.lean
  ========================================
  A rider has one request.  No constraint of the database says so; the desk counts the
  rider's requests before it makes one.  The count can be trusted because nothing else
  adds a request, none is ever taken away, and none changes its owner: the owners of the
  requests are, in order, the riders whose requests the calls so far have made.
-/
import ShuttleDesk.Proofs.Desk.Sound

namespace ShuttleDesk

open Procedure Operation

namespace Tables

variable {t : Tables} {now : Calendar.WallClock} {rider : Int}

/-- The owners of the requests, in the order of the requests. -/
def owners (t : Tables) : List Int := t.requests.map (·.userId)

theorem mem_owners_iff : rider ∈ t.owners ↔ t.requestsOf rider ≠ [] := by
  simp only [owners, requestsOf, List.mem_map, ne_eq, List.filter_eq_nil_iff, beq_iff_eq, not_forall,
    not_not, exists_prop]

theorem length_requestsOf : (t.requestsOf rider).length = t.owners.count rider := by
  rw [owners, List.count_eq_countP, List.countP_map, requestsOf, List.countP_eq_length_filter]
  rfl

theorem owners_editRequests {chosen : Request → Bool} {edit : Request → Request}
    (huser : ∀ r, (edit r).userId = r.userId) :
    (t.editRequests now chosen edit).owners = t.owners :=
  map_updateWhere fun r _ _ => huser r

theorem owners_refreshAll (fs : List Flight.Refresh) :
    (t.refreshAll now fs).owners = t.owners := by
  refine refreshAll_induction (p := fun u => u.owners = t.owners) ?_ rfl
  intro u f _ h
  rw [← h]
  exact owners_editRequests fun _ => rfl

end Tables

namespace Desk

/-! ### The count -/

/-- The store never complains of a second request; it has no constraint against one. -/
theorem ofStorage_ne_alreadyHasRequest (e : StorageError) :
    DeskError.ofStorage e ≠ .alreadyHasRequest := by
  unfold DeskError.ofStorage
  split <;> simp

theorem lift_ne_alreadyHasRequest {α : Type} {x : Statement α} {w w' : World} :
    (liftM x : Operation α) w ≠ (.error (.error .alreadyHasRequest), w') := by
  intro h
  rcases mapError_error_iff.1 h with ⟨e, -, he⟩ | ⟨-, he⟩
  · exact ofStorage_ne_alreadyHasRequest e (Stop.error.inj he).symm
  · cases he

theorem accepted_ne_alreadyHasRequest {α : Type} {x : Except Refusal α} {w w' : World} :
    accepted x w ≠ (.error (.error .alreadyHasRequest), w') := by
  rcases x with (_ | _ | _) | a <;> simp [accepted, Except.mapError, DeskError.ofRefusal]

theorem inCalendar_ne_alreadyHasRequest {α : Type} {x : Option α} {w w' : World} :
    inCalendar x w ≠ (.error (.error .alreadyHasRequest), w') := by
  cases x <;> simp [inCalendar]

theorem validate_ne_alreadyHasRequest {input : RequestInput} {w w' : World} :
    (ofExcept input.validate : Operation Unit) w ≠ (.error (.error .alreadyHasRequest), w') := by
  unfold RequestInput.validate FieldRule.check
  split <;> simp

/-- A new request is refused for this reason exactly if the rider has one. -/
theorem createRequest_alreadyHasRequest_iff {rider : Int} {input : RequestInput} {w : World}
    (hopen : w.isOpen = true) :
    (createRequest rider input w).1 = .error (.error .alreadyHasRequest) ↔
      rider ∈ w.tables.owners := by
  rw [Tables.mem_owners_iff]
  have hcount : (liftM (Requests.countOf rider) : Operation Nat) w
      = (.ok (w.tables.requestsOf rider).length, w) :=
    lift_ok_iff.2 (Requests.countOf_ok_iff.2 ⟨hopen, rfl, rfl⟩)
  constructor
  · intro h hnone
    rcases hrun : createRequest rider input w with ⟨o, w'⟩
    rw [hrun] at h
    obtain rfl : o = .error (.error .alreadyHasRequest) := h
    rw [createRequest, bind_run, hcount, hnone] at hrun
    rcases ite_error_iff.1 hrun with ⟨hpos, -⟩ | ⟨-, hrun⟩
    · cases hpos
    -- whatever stops the rest, it is another error
    rcases bind_error_iff.1 hrun with h | ⟨_, _, -, hrun⟩
    · exact validate_ne_alreadyHasRequest h
    rcases bind_error_iff.1 hrun with h | ⟨date, _, -, hrun⟩
    · exact accepted_ne_alreadyHasRequest h
    rcases bind_error_iff.1 hrun with h | ⟨arrival, _, -, hrun⟩
    · exact accepted_ne_alreadyHasRequest h
    rcases bind_error_iff.1 hrun with h | ⟨values, _, -, hrun⟩
    · exact inCalendar_ne_alreadyHasRequest h
    · exact lift_ne_alreadyHasRequest hrun
  · intro hsome
    have hpos : 0 < (w.tables.requestsOf rider).length := List.length_pos_iff.2 hsome
    simp [createRequest, bind_run, hcount, hpos]

/-! ### One call -/

/-- The rider whose request a call with an outcome has made. -/
def creator? : Call → Outcome → Option Int
  | .createRequest rider _, .ok _ => some rider
  | _, _ => none

/-- The riders whose requests the calls of a journal have made, in order. -/
def creators (es : List Entry) : List Int := es.filterMap fun e => creator? e.call e.outcome

variable {w w' : World} {c : Call} {o : Outcome}

/-- Requests come from calls that make them; they stay, and they stay with their owners. -/
theorem Effect.owners_eq (h : Effect w c o w') :
    w'.tables.owners = w.tables.owners ++ (creator? c o).toList := by
  have hsame : w'.tables.owners = w.tables.owners → creator? c o = none →
      w'.tables.owners = w.tables.owners ++ (creator? c o).toList := by
    intro howners hnone
    rw [howners, hnone, Option.toList_none, List.append_nil]
  cases h with
  | stopped kept =>
    refine hsame (by rw [kept.tables]) ?_
    cases c <;> rfl
  | viewed view =>
    refine hsame rfl ?_
    cases c <;> first | rfl | cases view
  | requestMade alone valid dateRead arrivalRead timed storable bags known row =>
    subst row
    exact List.map_append
  | detailsSaved => exact hsame (Tables.owners_editRequests fun _ => rfl) rfl
  | bound => exact hsame (Tables.owners_editRequests (t := w.tables.bind _ _) fun _ => rfl) rfl
  | unbound => exact hsame (Tables.owners_editRequests (t := w.tables.unbind _ _) fun _ => rfl) rfl
  | published =>
    exact hsame (Tables.owners_editRequests (t := w.tables.publishShift _) fun _ => rfl) rfl
  | synced => exact hsame (Tables.owners_refreshAll _) rfl
  | _ => exact hsame rfl rfl

/-- Who makes a request had none. -/
theorem Effect.not_mem_owners (h : Effect w c o w') {rider : Int} (hc : creator? c o = some rider) :
    rider ∉ w.tables.owners := by
  unfold creator? at hc
  split at hc
  · cases hc
    cases h with
    | viewed view => cases view
    | requestMade alone =>
      rw [Tables.mem_owners_iff, not_not]
      exact alone
  · cases hc

theorem Effect.nodup_owners (h : Effect w c o w') (hnodup : w.tables.owners.Nodup) :
    w'.tables.owners.Nodup := by
  rw [h.owners_eq]
  cases hc : creator? c o with
  | none => simpa using hnodup
  | some rider => exact nodup_append_one hnodup (h.not_mem_owners hc)

/-! ### Runs -/

/-- The owners are those whose requests the entries so far have made, each once. -/
structure OwnersTold (w : World) (es : List Entry) : Prop where
  owners : w.tables.owners = creators es
  nodup : w.tables.owners.Nodup

theorem OwnersTold.step {es : List Entry} {e : Entry} (h : OwnersTold w es)
    (he : Effect w e.call e.outcome e.after) : OwnersTold e.after (es ++ [e]) where
  owners := by
    rw [he.owners_eq, h.owners, creators, creators, List.filterMap_append]
    cases hc : creator? e.call e.outcome <;> simp [hc]
  nodup := he.nodup_owners h.nodup

theorem OwnersTold.worldAfter (timeout : Int) (cs : List TimedCall)
    (hnone : w.tables.requests = []) :
    OwnersTold (worldAfter timeout cs w) (journal timeout cs w) := by
  have hbegin : OwnersTold w [] := by
    constructor <;> simp [Tables.owners, hnone, creators]
  exact journal_induction (fun _ _ _ h => ⟨h.owners, h.nodup⟩) (fun he h => h.step he) cs hbegin

/-- In a run that begins without requests a rider makes one request at most, and owns as many as
the rider has made.  From then on, and not before, every further attempt on an open store is
refused because the rider has a request, whatever is sent and whatever has become of the
request. -/
theorem one_request_per_rider (timeout : Int) (cs : List TimedCall) (w : World)
    (hnone : w.tables.requests = []) (rider : Int) :
    let after := worldAfter timeout cs w
    let made := (creators (journal timeout cs w)).count rider
    made ≤ 1 ∧ (after.tables.requestsOf rider).length = made ∧
    ∀ (m : Moment) (input : RequestInput), m.isOpen = true →
      (((⟨m, .createRequest rider input⟩ : TimedCall).make timeout after).outcome
        = .error (.error .alreadyHasRequest) ↔ made = 1) := by
  intro after made
  have htold : OwnersTold after (journal timeout cs w) := .worldAfter timeout cs hnone
  have hmade : made = after.tables.owners.count rider := by rw [htold.owners]
  have hle : made ≤ 1 := by
    rw [hmade]
    exact List.nodup_iff_count_le_one.1 htold.nodup rider
  refine ⟨hle, by rw [Tables.length_requestsOf, hmade], ?_⟩
  intro m input hopen
  have houtcome : ((⟨m, .createRequest rider input⟩ : TimedCall).make timeout after).outcome
        = .error (.error .alreadyHasRequest) ↔
      (createRequest rider input (after.atMoment m)).1 = .error (.error .alreadyHasRequest) := by
    change ((Answer.request <$> createRequest rider input) (after.atMoment m)).1 = _ ↔ _
    rw [map_run]
    rcases createRequest rider input (after.atMoment m) with ⟨_ | _, _⟩ <;> simp
  have howners : (after.atMoment m).tables.owners = after.tables.owners := rfl
  rw [houtcome, createRequest_alreadyHasRequest_iff hopen, howners, ← List.count_pos_iff, ← hmade]
  omega

/-- The request of the small desk is bound and published; its rider cannot make another one, with
other values. -/
theorem one_request_after_publication :
    let calls := [smallRequest, .assign 1 1, .publishShift 1].map TimedCall.undisturbed
    smallDesk.tables.requests = [] ∧
    (creators (journal 0 calls smallDesk)).count 1 = 1 ∧
    ((TimedCall.undisturbed (.createRequest 1
      ⟨"CA2", "2026-03-02", "T1", 0, 0, "2026-03-02 10:00:00"⟩)).make 0
        (worldAfter 0 calls smallDesk)).outcome = .error (.error .alreadyHasRequest) := by
  intro calls
  obtain ⟨-, -, hrefused⟩ := one_request_per_rider 0 calls smallDesk rfl 1
  have hmade : (creators (journal 0 calls smallDesk)).count 1 = 1 := by decide +kernel
  exact ⟨rfl, hmade, (hrefused _ _ rfl).2 hmade⟩

end Desk
end ShuttleDesk
